import LineSieve.Token.Lexer

/-!
# The lexical grammar

What the tokens of a text are, without a lexer: the text is a row of blanks, parentheses, words and
patterns, where a word is as long as it can be.

* `Lexes`: the characters are such a row, and these are its tokens in order.
* `Body`: the text between the slashes of a pattern, and what it stands for.
* `Breaks`: the characters are such a row up to a slash after which no pattern ends, with the error
  that this is.
* `lexes_or_breaks`: every text is of one of the two kinds.
* `body_unique`: how far the body of a pattern reaches is determined.
-/

namespace LineSieve.Lexer

/-! ## Words -/

/-- Characters that words consist of. -/
def WordChar (c : Char) : Prop := c ≠ ' ' ∧ c ≠ '(' ∧ c ≠ ')' ∧ c ≠ '/'

instance (c : Char) : Decidable (WordChar c) := inferInstanceAs (Decidable (_ ∧ _))

-- decided along the list, never over all characters there are
instance (w : List Char) : Decidable (∀ c ∈ w, WordChar c) :=
  decidable_of_iff (w.all (fun c => decide (WordChar c)) = true) (by simp)

theorem eq_of_not_wordChar {c : Char} (h : ¬ WordChar c) :
    c = ' ' ∨ c = '(' ∨ c = ')' ∨ c = '/' := by
  simp only [WordChar] at h
  grind

/-- A word that comes before these characters ends there. -/
def EndsWord (cs : List Char) : Prop := ∀ c, cs.head? = some c → ¬ WordChar c

/-- The token of a word: an operator for exactly its name. -/
inductive WordToken : String → Token → Prop where
  | not : WordToken "NOT" .not
  | and : WordToken "AND" .and
  | or : WordToken "OR" .or
  | word {text : String} (h : text ≠ "NOT" ∧ text ≠ "AND" ∧ text ≠ "OR") :
      WordToken text (.word text)

theorem ofWord_eq_iff {text : String} {t : Token} : Token.ofWord text = t ↔ WordToken text t := by
  constructor
  · intro h
    subst h
    unfold Token.ofWord Token.keyword?
    split
    · rename_i hNot
      rw [hNot]
      exact .not
    · split
      · rename_i hAnd
        rw [hAnd]
        exact .and
      · split
        · rename_i hOr
          rw [hOr]
          exact .or
        · rename_i hNot hAnd hOr
          exact .word ⟨hNot, hAnd, hOr⟩
  · intro h
    cases h with
    | not => rfl
    | and => rfl
    | or => rfl
    | word h => simp [Token.ofWord, Token.keyword?, h]

theorem endsWord_nil : EndsWord [] := fun _ h => nomatch h

theorem endsWord_cons {c : Char} (h : ¬ WordChar c) (cs : List Char) : EndsWord (c :: cs) := by
  intro d hd
  cases hd
  exact h

theorem EndsWord.append {cs ds : List Char} (h : EndsWord cs) (h' : EndsWord ds) :
    EndsWord (cs ++ ds) := by
  cases cs with
  | nil => exact h'
  | cons c cs => exact h

/-- Every text begins with a longest word, which may be empty. -/
theorem exists_word (cs : List Char) :
    ∃ w rest, cs = w ++ rest ∧ (∀ c ∈ w, WordChar c) ∧ EndsWord rest := by
  induction cs with
  | nil => exact ⟨[], [], rfl, fun _ h => (nomatch h), endsWord_nil⟩
  | cons c cs ih =>
    by_cases hc : WordChar c
    · obtain ⟨w, rest, rfl, hw, hEnd⟩ := ih
      refine ⟨c :: w, rest, rfl, ?_, hEnd⟩
      intro d hd
      rcases List.mem_cons.mp hd with rfl | hd
      · exact hc
      · exact hw d hd
    · exact ⟨[], c :: cs, rfl, fun _ h => (nomatch h), endsWord_cons hc cs⟩

/-! ## Bodies of patterns -/

/-- The first characters are the body of a pattern, which stands for the second ones: a slash in it
is written with a backslash, and there is no other use of a backslash. -/
inductive Body : List Char → List Char → Prop where
  | nil : Body [] []
  | plain {c : Char} {s m : List Char} (hSlash : c ≠ '/') (hBackslash : c ≠ '\\')
      (h : Body s m) : Body (c :: s) (c :: m)
  | slash {s m : List Char} (h : Body s m) : Body ('\\' :: '/' :: s) ('/' :: m)

/-- What can come after a body that goes no further. -/
inductive BodyEnd : List Char → Prop where
  | closed (rest : List Char) : BodyEnd ('/' :: rest)
  | unclosed : BodyEnd []
  | dangling : BodyEnd ['\\']
  | escape {c : Char} (rest : List Char) (h : c ≠ '/') : BodyEnd ('\\' :: c :: rest)

/-- The error that comes after a body which stands for `m`. -/
inductive Fault (m : List Char) : List Char → LexicalError → Prop where
  | unclosed : Fault m [] (.unclosedPattern (String.ofList m))
  | dangling : Fault m ['\\'] (.unclosedPattern (String.ofList m))
  | escape {c : Char} (rest : List Char) (h : c ≠ '/') :
      Fault m ('\\' :: c :: rest) (.invalidEscape (String.ofList (m ++ [c])))

theorem Fault.bodyEnd {m rest : List Char} {e : LexicalError} (h : Fault m rest e) :
    BodyEnd rest := by
  cases h with
  | unclosed => exact .unclosed
  | dangling => exact .dangling
  | escape rest h => exact .escape rest h

theorem BodyEnd.closed_or_fault {rest : List Char} (h : BodyEnd rest) (m : List Char) :
    (∃ tail, rest = '/' :: tail) ∨ ∃ e, Fault m rest e := by
  cases h with
  | closed tail => exact Or.inl ⟨tail, rfl⟩
  | unclosed => exact Or.inr ⟨_, .unclosed⟩
  | dangling => exact Or.inr ⟨_, .dangling⟩
  | escape tail h => exact Or.inr ⟨_, .escape tail h⟩

/-- Every text begins with a longest body, which may be empty. -/
theorem exists_body (cs : List Char) :
    ∃ s m rest, cs = s ++ rest ∧ Body s m ∧ BodyEnd rest := by
  match cs with
  | [] => exact ⟨[], [], [], rfl, .nil, .unclosed⟩
  | c :: cs =>
    by_cases hSlash : c = '/'
    · subst hSlash
      exact ⟨[], [], '/' :: cs, rfl, .nil, .closed cs⟩
    · by_cases hBackslash : c = '\\'
      · subst hBackslash
        match cs with
        | [] => exact ⟨[], [], ['\\'], rfl, .nil, .dangling⟩
        | d :: cs =>
          by_cases hd : d = '/'
          · subst hd
            obtain ⟨s, m, rest, rfl, hs, hEnd⟩ := exists_body cs
            exact ⟨'\\' :: '/' :: s, '/' :: m, rest, rfl, .slash hs, hEnd⟩
          · exact ⟨[], [], '\\' :: d :: cs, rfl, .nil, .escape cs hd⟩
      · obtain ⟨s, m, rest, rfl, hs, hEnd⟩ := exists_body cs
        exact ⟨c :: s, c :: m, rest, rfl, .plain hSlash hBackslash hs, hEnd⟩

theorem BodyEnd.not_plain {c : Char} {cs : List Char} (h : BodyEnd (c :: cs)) (hSlash : c ≠ '/') :
    c = '\\' := by
  cases h with
  | closed => exact absurd rfl hSlash
  | dangling => rfl
  | escape => rfl

theorem BodyEnd.not_slash {cs : List Char} (h : BodyEnd ('\\' :: '/' :: cs)) : False := by
  cases h with
  | escape _ h => exact h rfl

/-- A body followed by something that does not continue it is found in only one way. -/
theorem body_unique {s m rest s' m' rest' : List Char} (h : Body s m) (h' : Body s' m')
    (hEnd : BodyEnd rest) (hEnd' : BodyEnd rest') (hEq : s ++ rest = s' ++ rest') :
    s = s' ∧ m = m' ∧ rest = rest' := by
  induction h generalizing s' m' with
  | nil =>
    rw [List.nil_append] at hEq
    subst hEq
    cases h' with
    | nil => exact ⟨rfl, rfl, rfl⟩
    | plain hSlash hBackslash => exact absurd (hEnd.not_plain hSlash) hBackslash
    | slash => exact hEnd.not_slash.elim
  | plain hSlash hBackslash _ ih =>
    cases h' with
    | nil =>
      rw [List.nil_append] at hEq
      subst hEq
      exact absurd (hEnd'.not_plain hSlash) hBackslash
    | plain _ _ h' =>
      obtain ⟨rfl, hRest⟩ := List.cons.inj hEq
      obtain ⟨rfl, rfl, rfl⟩ := ih h' hRest
      exact ⟨rfl, rfl, rfl⟩
    | slash => exact absurd (List.cons.inj hEq).1 hBackslash
  | slash _ ih =>
    cases h' with
    | nil =>
      rw [List.nil_append] at hEq
      subst hEq
      exact hEnd'.not_slash.elim
    | plain _ hBackslash => exact absurd (List.cons.inj hEq).1.symm hBackslash
    | slash h' =>
      obtain ⟨rfl, rfl, rfl⟩ := ih h' (List.cons.inj (List.cons.inj hEq).2).2
      exact ⟨rfl, rfl, rfl⟩

/-! ## Whole texts -/

/-- The characters are a row of blanks, parentheses, longest words and patterns; the tokens are
those of the row. -/
inductive Lexes : List Char → List Token → Prop where
  | nil : Lexes [] []
  | blank {cs : List Char} {ts : List Token} (h : Lexes cs ts) : Lexes (' ' :: cs) ts
  | openParen {cs : List Char} {ts : List Token} (h : Lexes cs ts) :
      Lexes ('(' :: cs) (.openParen :: ts)
  | closeParen {cs : List Char} {ts : List Token} (h : Lexes cs ts) :
      Lexes (')' :: cs) (.closeParen :: ts)
  | word {w cs : List Char} {t : Token} {ts : List Token} (hne : w ≠ [])
      (hw : ∀ c ∈ w, WordChar c) (hEnd : EndsWord cs) (ht : WordToken (String.ofList w) t)
      (h : Lexes cs ts) : Lexes (w ++ cs) (t :: ts)
  | pattern {s m cs : List Char} {ts : List Token} (hs : Body s m) (h : Lexes cs ts) :
      Lexes ('/' :: (s ++ '/' :: cs)) (.pattern (String.ofList m) :: ts)

/-- After the row `u` comes a pattern that does not end: its body goes on to `rest`, where the error
is. -/
structure Breaks (cs u body rest : List Char) (e : LexicalError) : Prop where
  parts : cs = u ++ '/' :: (body ++ rest)
  row : ∃ ts, Lexes u ts
  fault : ∃ m, Body body m ∧ Fault m rest e

namespace Breaks

variable {cs u body rest : List Char} {e : LexicalError}

/-- One more character in front, which stands on its own. -/
theorem cons (c : Char) (hc : ∀ {ds : List Char}, (∃ ts, Lexes ds ts) → ∃ ts, Lexes (c :: ds) ts)
    (h : Breaks cs u body rest e) : Breaks (c :: cs) (c :: u) body rest e := by
  obtain ⟨rfl, hRow, hFault⟩ := h
  exact ⟨rfl, hc hRow, hFault⟩

theorem word {w : List Char} (hne : w ≠ []) (hw : ∀ c ∈ w, WordChar c) (hEnd : EndsWord cs)
    (h : Breaks cs u body rest e) : Breaks (w ++ cs) (w ++ u) body rest e := by
  obtain ⟨rfl, ⟨ts, hRow⟩, hFault⟩ := h
  have hEndRow : EndsWord u := by
    cases u with
    | nil => exact endsWord_nil
    | cons c u => exact hEnd
  exact ⟨(List.append_assoc _ _ _).symm, ⟨_, .word hne hw hEndRow (ofWord_eq_iff.mp rfl) hRow⟩,
    hFault⟩

theorem pattern {s m : List Char} (hs : Body s m) (h : Breaks cs u body rest e) :
    Breaks ('/' :: (s ++ '/' :: cs)) ('/' :: (s ++ '/' :: u)) body rest e := by
  obtain ⟨rfl, ⟨ts, hRow⟩, hFault⟩ := h
  exact ⟨by simp, ⟨_, .pattern hs hRow⟩, hFault⟩

end Breaks

/-- Every text is a row, or breaks in a pattern. -/
theorem lexes_or_breaks (cs : List Char) :
    (∃ ts, Lexes cs ts) ∨ ∃ u body rest e, Breaks cs u body rest e := by
  induction hLength : cs.length using Nat.strongRecOn generalizing cs with
  | ind n ih =>
    obtain ⟨w, tail, rfl, hw, hEnd⟩ := exists_word cs
    rw [List.length_append] at hLength
    by_cases hne : w = []
    · subst hne
      cases tail with
      | nil => exact Or.inl ⟨[], .nil⟩
      | cons c tail =>
        rw [List.length_cons] at hLength
        -- a character that stands on its own leaves it to the rest what the text is
        have hAlone : (∀ {ds}, (∃ ts, Lexes ds ts) → ∃ ts, Lexes (c :: ds) ts) →
            (∃ ts, Lexes (c :: tail) ts) ∨ ∃ u body rest e, Breaks (c :: tail) u body rest e := by
          intro hc
          rcases ih _ (by omega) tail rfl with h | ⟨u, body, rest, e, h⟩
          · exact Or.inl (hc h)
          · exact Or.inr ⟨c :: u, body, rest, e, h.cons c hc⟩
        rcases eq_of_not_wordChar (hEnd c rfl) with rfl | rfl | rfl | rfl
        · exact hAlone fun ⟨_, h⟩ => ⟨_, .blank h⟩
        · exact hAlone fun ⟨_, h⟩ => ⟨_, .openParen h⟩
        · exact hAlone fun ⟨_, h⟩ => ⟨_, .closeParen h⟩
        · obtain ⟨s, m, rest, rfl, hs, hBodyEnd⟩ := exists_body tail
          rcases hBodyEnd.closed_or_fault m with ⟨rest, rfl⟩ | ⟨e, hFault⟩
          · rw [List.length_append, List.length_cons] at hLength
            rcases ih _ (by omega) rest rfl with ⟨ts, h⟩ | ⟨u, body, rest, e, h⟩
            · exact Or.inl ⟨_, .pattern hs h⟩
            · exact Or.inr ⟨_, body, rest, e, h.pattern hs⟩
          · exact Or.inr ⟨[], s, rest, e, rfl, ⟨[], .nil⟩, m, hs, hFault⟩
    · have hPos := List.length_pos_iff.mpr hne
      rcases ih _ (by omega) tail rfl with ⟨ts, h⟩ | ⟨u, body, rest, e, h⟩
      · exact Or.inl ⟨_, .word hne hw hEnd (ofWord_eq_iff.mp rfl) h⟩
      · exact Or.inr ⟨w ++ u, body, rest, e, h.word hne hw hEnd⟩

end LineSieve.Lexer
