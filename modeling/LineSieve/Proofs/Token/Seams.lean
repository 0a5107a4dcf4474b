import LineSieve.Proofs.Token.Lexing

/-!
# Texts put together

What the lexer has read of one text does not reach into the next, if a blank or a parenthesis stands
between them: there it is between words, and holds nothing.

* `Separator`: the texts that keep others apart, with the tokens they stand for.
* `tokenize_append_separator`: after a separator the second text is read on its own, be it into
  tokens or into an error.
* `Breaks.append`: an invalid escape is one whatever comes after it.
* `tokenize_across_separators`: both, as laws of the lexer.
-/

namespace LineSieve.Lexer

/-- A text that ends whatever word stands before it, and the tokens of this text. -/
inductive Separator : String → List Token → Prop where
  | blank : Separator " " []
  | openParen : Separator "(" [.openParen]
  | closeParen : Separator ")" [.closeParen]

theorem Separator.endsWord {sep : String} {us : List Token} (h : Separator sep us)
    (cs : List Char) : EndsWord (sep.toList ++ cs) := by
  cases h <;> exact endsWord_cons (by decide) cs

/-! ## A text after a separator -/

/-- After a separator the lexer is between words, as it is at the beginning of a text. -/
theorem tokensFrom_separator {sep : String} {us : List Token} (h : Separator sep us)
    (cs : List Char) :
    tokensFrom .between (sep.toList ++ cs) = prepend us (tokensFrom .between cs) := by
  cases h with
  | blank => exact tokensFrom_cons_ok rfl cs
  | openParen => exact tokensFrom_cons_ok rfl cs
  | closeParen => exact tokensFrom_cons_ok rfl cs

theorem tokenize_append_separator {a sep : String} {ts us : List Token} (ha : tokenize a = .ok ts)
    (h : Separator sep us) (b : String) :
    tokenize (a ++ sep ++ b) = prepend (ts ++ us) (tokenize b) := by
  have hRow : Lexes a.toList ts := tokenize_eq_ok_iff.mp ha
  rw [tokenize_eq, tokenize_eq, String.toList_append, String.toList_append, List.append_assoc,
    tokensFrom_append hRow (h.endsWord _), tokensFrom_separator h, prepend_prepend]

/-! ## A text after an invalid escape -/

theorem exists_breaks_of_tokenize {text : String} {e : LexicalError}
    (h : tokenize text = .error e) : ∃ u body rest, Breaks text.toList u body rest e := by
  rcases lexes_or_breaks text.toList with ⟨ts, hLexes⟩ | ⟨u, body, rest, e', hBreaks⟩
  · rw [tokenize_eq_ok_iff.mpr hLexes] at h
    cases h
  · rw [tokenize_eq, tokensFrom_of_breaks hBreaks] at h
    cases h
    exact ⟨u, body, rest, hBreaks⟩

theorem Breaks.append {cs u body rest : List Char} {text : String}
    (h : Breaks cs u body rest (.invalidEscape text)) (ds : List Char) :
    Breaks (cs ++ ds) u body (rest ++ ds) (.invalidEscape text) := by
  obtain ⟨rfl, hRow, m, hBody, hFault⟩ := h
  cases hFault with
  | escape tail hc => exact ⟨by simp, hRow, m, hBody, .escape (tail ++ ds) hc⟩

theorem tokenize_append_of_invalidEscape {a : String} {text : String}
    (h : tokenize a = .error (.invalidEscape text)) (b : String) :
    tokenize (a ++ b) = .error (.invalidEscape text) := by
  obtain ⟨u, body, rest, hBreaks⟩ := exists_breaks_of_tokenize h
  rw [tokenize_eq, String.toList_append]
  exact tokensFrom_of_breaks (hBreaks.append b.toList)

/-! ## Laws of the lexer -/

/-- After a text that can be read, and a separator, another text has the tokens or the error that it
has on its own. After an invalid escape nothing matters any more. -/
theorem tokenize_across_separators (a b : String) :
    (∀ ts, tokenize a = .ok ts → ∀ sep us, Separator sep us →
      (∀ vs, tokenize b = .ok vs → tokenize (a ++ sep ++ b) = .ok (ts ++ us ++ vs)) ∧
      (∀ e, tokenize b = .error e → tokenize (a ++ sep ++ b) = .error e)) ∧
    (∀ text, tokenize a = .error (.invalidEscape text) →
      tokenize (a ++ b) = .error (.invalidEscape text)) := by
  refine ⟨fun ts ha sep us hSep => ⟨fun vs hb => ?_, fun e hb => ?_⟩, fun text ha => ?_⟩
  · rw [tokenize_append_separator ha hSep, hb]
    rfl
  · rw [tokenize_append_separator ha hSep, hb]
    rfl
  · exact tokenize_append_of_invalidEscape ha b

/-- `x NOT` and `OR/y/` around a parenthesis; `x NOT` and the broken `z /y\w`; and the latter before
`OR/y/`, which begins in its pattern. -/
theorem tokenize_across_separators_words :
    (tokenize "x NOT" = .ok [.word "x", .not] ∧
      tokenize "OR/y/" = .ok [.or, .pattern "y"] ∧
      tokenize "x NOT(OR/y/" = .ok [.word "x", .not, .openParen, .or, .pattern "y"]) ∧
    (tokenize "z /y\\w" = .error (.invalidEscape "yw") ∧
      tokenize "x NOT z /y\\w" = .error (.invalidEscape "yw")) ∧
    tokenize "z /y\\wOR/y/" = .error (.invalidEscape "yw") := by
  have hFirst : tokenize "x NOT" = .ok [.word "x", .not] := rfl
  have hSecond : tokenize "OR/y/" = .ok [.or, .pattern "y"] := rfl
  have hBroken : tokenize "z /y\\w" = .error (.invalidEscape "yw") := rfl
  obtain ⟨hRead, -⟩ := tokenize_across_separators "x NOT" "OR/y/"
  obtain ⟨hFails, -⟩ := tokenize_across_separators "x NOT" "z /y\\w"
  obtain ⟨-, hEscape⟩ := tokenize_across_separators "z /y\\w" "OR/y/"
  exact ⟨⟨hFirst, hSecond, (hRead _ hFirst "(" _ .openParen).1 _ hSecond⟩,
    ⟨hBroken, (hFails _ hFirst " " _ .blank).2 _ hBroken⟩, hEscape _ hBroken⟩

end LineSieve.Lexer
