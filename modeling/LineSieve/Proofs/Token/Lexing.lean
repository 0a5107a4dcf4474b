import LineSieve.Proofs.Token.LexicalGrammar
import Mathlib.Logic.ExistsUnique

/-!
# The lexer reads its grammar

* `tokensFrom`: the tokens of characters that the lexer reads in a given mode. What it does with one
  character (`tokensFrom_cons`) gives what it does with a whole word or body of a pattern.
* `tokensFrom_append`: a row of tokens is read on its own, whatever comes after it, if only a word
  at its end ends there.
* `tokenize_exact`: the lexer accepts the texts of the lexical grammar with the tokens they have
  there, and reports every other text at the one place where it breaks.
-/

namespace LineSieve.Lexer

/-! ## Reading in a mode -/

/-- The tokens that come after others which are read already. -/
def prepend (ts : List Token) (result : Except LexicalError (List Token)) :
    Except LexicalError (List Token) := result.map (ts ++ ·)

theorem prepend_nil (result : Except LexicalError (List Token)) : prepend [] result = result := by
  cases result <;> rfl

theorem prepend_prepend (ts us : List Token) (result : Except LexicalError (List Token)) :
    prepend ts (prepend us result) = prepend (ts ++ us) result := by
  cases result with
  | error e => rfl
  | ok vs => exact congrArg Except.ok (List.append_assoc ts us vs).symm

/-- The tokens of the characters, read in the mode, to the end of the text. -/
def tokensFrom (mode : Mode) (cs : List Char) : Except LexicalError (List Token) := do
  let (ts, mode) ← run mode cs
  let us ← finish mode
  return ts ++ us

theorem tokenize_eq (text : String) : tokenize text = tokensFrom .between text.toList := rfl

theorem tokensFrom_nil (mode : Mode) : tokensFrom mode [] = finish mode := by
  simp only [tokensFrom, run, bind, Except.bind, pure, Except.pure, List.nil_append]
  cases finish mode <;> rfl

theorem tokensFrom_cons_ok {mode mode' : Mode} {c : Char} {ts : List Token}
    (h : step mode c = .ok (ts, mode')) (cs : List Char) :
    tokensFrom mode (c :: cs) = prepend ts (tokensFrom mode' cs) := by
  simp only [tokensFrom, run, h, bind, Except.bind, pure, Except.pure]
  cases run mode' cs with
  | error e => rfl
  | ok p =>
    dsimp only
    cases finish p.2 with
    | error e => rfl
    | ok us => exact congrArg Except.ok (List.append_assoc ts p.1 us)

theorem tokensFrom_cons_error {mode : Mode} {c : Char} {e : LexicalError}
    (h : step mode c = .error e) (cs : List Char) : tokensFrom mode (c :: cs) = .error e := by
  simp only [tokensFrom, run, h, bind, Except.bind]

/-! ## Words -/

theorem step_wordChar {c : Char} (h : WordChar c) (mode : Mode)
    (hMode : mode = .between ∨ ∃ read, mode = .word read) :
    step mode c = .ok ([], mode.extend c) := by
  obtain ⟨hBlank, hOpen, hClose, hSlash⟩ := h
  rcases hMode with rfl | ⟨read, rfl⟩ <;> simp only [step, if_neg hBlank, if_neg hOpen,
    if_neg hClose, if_neg hSlash]

theorem tokensFrom_word_append {w : List Char} (hw : ∀ c ∈ w, WordChar c) (read rest : List Char) :
    tokensFrom (.word read) (w ++ rest) = tokensFrom (.word (w.reverse ++ read)) rest := by
  induction w generalizing read with
  | nil => rfl
  | cons c w ih =>
    have hc := step_wordChar (hw c List.mem_cons_self) (.word read) (Or.inr ⟨read, rfl⟩)
    rw [List.cons_append, tokensFrom_cons_ok hc, prepend_nil, Mode.extend,
      ih (fun d hd => hw d (List.mem_cons_of_mem _ hd)), List.reverse_cons, List.append_assoc]
    rfl

/-- A word ends before everything that is no character of a word. -/
theorem tokensFrom_word_end {cs : List Char} (h : EndsWord cs) (read : List Char) :
    tokensFrom (.word read) cs = prepend [Token.ofWord (textOf read)] (tokensFrom .between cs) := by
  cases cs with
  | nil => rfl
  | cons c cs =>
    -- the same step as between words, but for the word that is given out first
    rcases eq_of_not_wordChar (h c rfl) with rfl | rfl | rfl | rfl
    all_goals
      rw [tokensFrom_cons_ok rfl, tokensFrom_cons_ok rfl, prepend_prepend]
      rfl

theorem tokensFrom_longest_word {w rest : List Char} (hne : w ≠ []) (hw : ∀ c ∈ w, WordChar c)
    (hEnd : EndsWord rest) : tokensFrom .between (w ++ rest) =
      prepend [Token.ofWord (String.ofList w)] (tokensFrom .between rest) := by
  obtain ⟨c, w, rfl⟩ := List.exists_cons_of_ne_nil hne
  have hc : step .between c = .ok ([], .word [c]) :=
    step_wordChar (hw c List.mem_cons_self) .between (Or.inl rfl)
  rw [List.cons_append, tokensFrom_cons_ok hc, prepend_nil,
    tokensFrom_word_append (fun d hd => hw d (List.mem_cons_of_mem _ hd)),
    tokensFrom_word_end hEnd, textOf]
  simp

/-! ## Patterns -/

theorem tokensFrom_slash (cs : List Char) :
    tokensFrom .between ('/' :: cs) = tokensFrom (.pattern []) cs := by
  rw [tokensFrom_cons_ok rfl]
  exact prepend_nil _

theorem tokensFrom_body {s m : List Char} (h : Body s m) (read rest : List Char) :
    tokensFrom (.pattern read) (s ++ rest) = tokensFrom (.pattern (m.reverse ++ read)) rest := by
  induction h generalizing read with
  | nil => rfl
  | @plain c s m hSlash hBackslash _ ih =>
    have hc : step (.pattern read) c = .ok ([], .pattern (c :: read)) := by
      simp only [step, if_neg hSlash, if_neg hBackslash]
    rw [List.cons_append, tokensFrom_cons_ok hc, prepend_nil, ih, List.reverse_cons,
      List.append_assoc]
    rfl
  | @slash s m _ ih =>
    rw [List.cons_append, List.cons_append, tokensFrom_cons_ok rfl, tokensFrom_cons_ok rfl,
      prepend_nil, prepend_nil, ih, List.reverse_cons, List.append_assoc]
    rfl

theorem tokensFrom_pattern {s m : List Char} (h : Body s m) (rest : List Char) :
    tokensFrom .between ('/' :: (s ++ '/' :: rest)) =
      prepend [.pattern (String.ofList m)] (tokensFrom .between rest) := by
  rw [tokensFrom_slash, tokensFrom_body h, tokensFrom_cons_ok rfl, textOf]
  simp

theorem tokensFrom_fault {s m rest : List Char} {e : LexicalError} (h : Body s m)
    (hFault : Fault m rest e) : tokensFrom .between ('/' :: (s ++ rest)) = .error e := by
  rw [tokensFrom_slash, tokensFrom_body h, List.append_nil]
  cases hFault with
  | unclosed => simp [tokensFrom_nil, finish, textOf]
  | dangling =>
    rw [tokensFrom_cons_ok rfl, prepend_nil]
    simp [tokensFrom_nil, finish, textOf]
  | @escape c tail hc =>
    have hStep : step (.escape m.reverse) c =
        .error (.invalidEscape (String.ofList (m ++ [c]))) := by
      simp [step, hc, textOf]
    rw [tokensFrom_cons_ok rfl, prepend_nil, tokensFrom_cons_error hStep]

/-! ## Whole texts -/

/-- A row of tokens is read on its own. -/
theorem tokensFrom_append {cs : List Char} {ts : List Token} (h : Lexes cs ts) {rest : List Char}
    (hEnd : EndsWord rest) :
    tokensFrom .between (cs ++ rest) = prepend ts (tokensFrom .between rest) := by
  induction h with
  | nil => exact (prepend_nil _).symm
  | blank _ ih =>
    rw [List.cons_append, tokensFrom_cons_ok rfl, ih]
    exact prepend_nil _
  | openParen _ ih =>
    rw [List.cons_append, tokensFrom_cons_ok rfl, ih]
    exact prepend_prepend _ _ _
  | closeParen _ ih =>
    rw [List.cons_append, tokensFrom_cons_ok rfl, ih]
    exact prepend_prepend _ _ _
  | word hne hw hEndWord ht _ ih =>
    rw [List.append_assoc, tokensFrom_longest_word hne hw (hEndWord.append hEnd), ih,
      prepend_prepend, ofWord_eq_iff.mpr ht]
    rfl
  | pattern hs _ ih =>
    rw [List.cons_append, List.append_assoc, List.cons_append, tokensFrom_pattern hs, ih,
      prepend_prepend]
    rfl

theorem tokensFrom_of_lexes {cs : List Char} {ts : List Token} (h : Lexes cs ts) :
    tokensFrom .between cs = .ok ts := by
  have hRead := tokensFrom_append h endsWord_nil
  have hNil : tokensFrom .between [] = .ok [] := rfl
  rwa [List.append_nil, hNil, prepend, Except.map, List.append_nil] at hRead

theorem tokensFrom_of_breaks {cs u body rest : List Char} {e : LexicalError}
    (h : Breaks cs u body rest e) : tokensFrom .between cs = .error e := by
  obtain ⟨rfl, ⟨ts, hRow⟩, m, hBody, hFault⟩ := h
  rw [tokensFrom_append hRow (endsWord_cons (by decide) _), tokensFrom_fault hBody hFault]
  rfl

theorem lexes_of_tokensFrom {cs : List Char} {ts : List Token}
    (h : tokensFrom .between cs = .ok ts) : Lexes cs ts := by
  rcases lexes_or_breaks cs with ⟨us, hLexes⟩ | ⟨u, body, rest, e, hBreaks⟩
  · rw [tokensFrom_of_lexes hLexes] at h
    cases h
    exact hLexes
  · rw [tokensFrom_of_breaks hBreaks] at h
    cases h

theorem tokenize_eq_ok_iff {text : String} {ts : List Token} :
    tokenize text = .ok ts ↔ Lexes text.toList ts :=
  ⟨lexes_of_tokensFrom, tokensFrom_of_lexes⟩

/-- Rows are put together where no word goes on across the seam. -/
theorem lexes_append {cs ds : List Char} {ts us : List Token} (h : Lexes cs ts)
    (h' : Lexes ds us) (hEnd : EndsWord ds) : Lexes (cs ++ ds) (ts ++ us) := by
  refine lexes_of_tokensFrom ?_
  rw [tokensFrom_append h hEnd, tokensFrom_of_lexes h']
  rfl

/-! ## Where a text breaks -/

/-- A slash after a row begins a pattern, so that a longer row has to end it. -/
theorem exists_body_of_lexes_append {u y : List Char} {ts us : List Token} (h : Lexes u ts)
    (h' : Lexes (u ++ '/' :: y) us) : ∃ s m tail, Body s m ∧ y = s ++ '/' :: tail := by
  obtain ⟨s, m, rest, rfl, hs, hEnd⟩ := exists_body y
  rcases hEnd.closed_or_fault m with ⟨tail, rfl⟩ | ⟨e, hFault⟩
  · exact ⟨s, m, tail, hs, rfl⟩
  · have hOk := tokensFrom_of_lexes h'
    rw [tokensFrom_append h (endsWord_cons (by decide) _), tokensFrom_fault hs hFault] at hOk
    cases hOk

theorem Breaks.row_eq {cs u x body rest body' rest' : List Char} {e e' : LexicalError}
    (h : Breaks cs u body rest e) (h' : Breaks cs (u ++ x) body' rest' e') : x = [] := by
  obtain ⟨rfl, ⟨ts, hRow⟩, m, hBody, hFault⟩ := h
  obtain ⟨hParts, ⟨us, hRow'⟩, -⟩ := h'
  rw [List.append_assoc] at hParts
  have hRest := List.append_cancel_left hParts
  cases x with
  | nil => rfl
  | cons c y =>
    rw [List.cons_append] at hRest
    obtain ⟨rfl, hTail⟩ := List.cons.inj hRest
    obtain ⟨s, m', tail, hs, rfl⟩ := exists_body_of_lexes_append hRow hRow'
    rw [List.append_assoc] at hTail
    obtain ⟨-, -, rfl⟩ := body_unique hBody hs hFault.bodyEnd (.closed _) hTail
    cases hFault

theorem Breaks.unique {cs u body rest u' body' rest' : List Char} {e e' : LexicalError}
    (h : Breaks cs u body rest e) (h' : Breaks cs u' body' rest' e') :
    u = u' ∧ body = body' ∧ rest = rest' := by
  have hRow : u = u' := by
    rcases List.append_eq_append_iff.mp (h.parts.symm.trans h'.parts) with ⟨x, rfl, -⟩ | ⟨x, rfl, -⟩
    · rw [h.row_eq h', List.append_nil]
    · rw [h'.row_eq h, List.append_nil]
  subst hRow
  obtain ⟨m, hBody, hFault⟩ := h.fault
  obtain ⟨m', hBody', hFault'⟩ := h'.fault
  have hRest := (List.cons.inj (List.append_cancel_left (h.parts.symm.trans h'.parts))).2
  obtain ⟨rfl, -, rfl⟩ := body_unique hBody hBody' hFault.bodyEnd hFault'.bodyEnd hRest
  exact ⟨rfl, rfl, rfl⟩

/-- The lexer accepts exactly the texts of the lexical grammar, with their tokens. Every other text
breaks at one place, into a row of tokens, a slash, the body of a pattern and a rest, and the lexer
reports the error that stands there, whatever follows it. -/
theorem tokenize_exact (text : String) :
    (∀ ts, tokenize text = .ok ts ↔ Lexes text.toList ts) ∧
    ((¬ ∃ ts, Lexes text.toList ts) → ∃! parts : List Char × List Char × List Char,
      ∃ e, Breaks text.toList parts.1 parts.2.1 parts.2.2 e) ∧
    (∀ u body rest e, Breaks text.toList u body rest e → tokenize text = .error e) := by
  refine ⟨fun ts => tokenize_eq_ok_iff, fun hNone => ?_, fun u body rest e h => ?_⟩
  · rcases lexes_or_breaks text.toList with hLexes | ⟨u, body, rest, e, h⟩
    · exact absurd hLexes hNone
    · refine ⟨(u, body, rest), ⟨e, h⟩, ?_⟩
      rintro ⟨u', body', rest'⟩ ⟨e', h'⟩
      obtain ⟨rfl, rfl, rfl⟩ := h.unique h'
      rfl
  · rw [tokenize_eq]
    exact tokensFrom_of_breaks h

/-- `a/b\/c\d/ e` breaks in its pattern, at the backslash before `d`. -/
theorem tokenize_exact_escape :
    Breaks "a/b\\/c\\d/ e".toList "a".toList "b\\/c".toList "\\d/ e".toList
      (.invalidEscape "b/cd") ∧
    (∃! parts : List Char × List Char × List Char,
      ∃ e, Breaks "a/b\\/c\\d/ e".toList parts.1 parts.2.1 parts.2.2 e) ∧
    tokenize "a/b\\/c\\d/ e" = .error (.invalidEscape "b/cd") := by
  obtain ⟨hAccepts, hBreaks, hReports⟩ := tokenize_exact "a/b\\/c\\d/ e"
  have hRow : Lexes "a".toList [.word "a"] :=
    .word (List.cons_ne_nil 'a' []) (by decide) endsWord_nil (.word (by decide)) .nil
  have hBody : Body "b\\/c".toList "b/c".toList :=
    .plain (by decide) (by decide) (.slash (.plain (by decide) (by decide) .nil))
  have h : Breaks "a/b\\/c\\d/ e".toList "a".toList "b\\/c".toList "\\d/ e".toList
      (.invalidEscape "b/cd") :=
    ⟨rfl, ⟨_, hRow⟩, _, hBody, .escape _ (by decide)⟩
  have hError := hReports _ _ _ _ h
  refine ⟨h, hBreaks ?_, hError⟩
  rintro ⟨ts, hLexes⟩
  rw [(hAccepts ts).mpr hLexes] at hError
  cases hError

end LineSieve.Lexer
