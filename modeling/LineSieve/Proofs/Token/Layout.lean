import LineSieve.Proofs.Token.Lexing
import LineSieve.Proofs.Token.Writing
import Mathlib.Data.List.Chain

/-!
# Layouts of tokens

The same tokens can be written with different numbers of blanks around them. Where two words meet
there has to be a blank; everywhere else blanks are free.

* `Token.layOut`: tokens as characters, with the blanks that stand before each and at the end.
* `Token.Separated`: no word runs into the next one.
* `lexes_layOut`: a separated layout has the tokens that are laid out.
* `exists_layOut_of_lexes`: every row of tokens is such a layout of them.
* `tokenize_inverts_layout`: what this means for the lexer.
-/

namespace LineSieve

namespace Token

/-- A token with the number of blanks right before it. -/
structure Spaced where
  blanks : Nat
  token : Token
  deriving DecidableEq, Repr

def blanks (n : Nat) : List Char := List.replicate n ' '

/-- The tokens as they are written, and blanks after the last one. -/
def layOut (trailing : Nat) : List Spaced → List Char
  | [] => blanks trailing
  | s :: row => blanks s.blanks ++ (s.token.write ++ layOut trailing row)

/-- A word and the word right after it have a blank between them. -/
def Separated : List Spaced → Prop :=
  List.IsChain fun s t => s.token.IsWord → t.token.IsWord → 0 < t.blanks

instance : DecidablePred Separated := fun row => inferInstanceAs (Decidable (List.IsChain _ row))

theorem separated_cons {s : Spaced} {row : List Spaced} :
    Separated (s :: row) ↔
      (∀ t, row.head? = some t → s.token.IsWord → t.token.IsWord → 0 < t.blanks) ∧
        Separated row := by
  cases row with
  | nil => simp [Separated]
  | cons t row => simp [Separated, List.isChain_cons_cons]

/-- How far a row stands from what precedes it matters only to its first token. -/
theorem Separated.indent {s : Spaced} {row : List Spaced} (h : Separated (s :: row)) (n : Nat) :
    Separated (⟨n, s.token⟩ :: row) := by
  obtain ⟨hNext, hTail⟩ := separated_cons.mp h
  exact separated_cons.mpr ⟨hNext, hTail⟩

end Token

namespace Lexer

open Token

/-! ## What ends a word -/

theorem endsWord_cons_iff {c : Char} {cs : List Char} : EndsWord (c :: cs) ↔ ¬ WordChar c :=
  ⟨fun h => h c rfl, fun h => endsWord_cons h cs⟩

theorem endsWord_blanks (n : Nat) : EndsWord (blanks n) := by
  cases n with
  | zero => exact endsWord_nil
  | succ n => exact endsWord_cons (by decide) _

/-- Only another word does not end a word. -/
theorem endsWord_write_iff {t : Token} (ht : t.Writable) (cs : List Char) :
    EndsWord (t.write ++ cs) ↔ ¬ t.IsWord := by
  cases t with
  | openParen | closeParen | pattern =>
    simp only [write, List.cons_append, endsWord_cons_iff, IsWord]
    decide
  | not | and | or =>
    simp only [write, IsWord]
    exact iff_of_false (fun h => h _ rfl (by decide)) (not_not_intro trivial)
  | word text =>
    have hne : text.toList ≠ [] := fun hNil => ht.ne_empty (String.toList_eq_nil_iff.mp hNil)
    obtain ⟨c, w, hText⟩ := List.exists_cons_of_ne_nil hne
    have hc : WordChar c := ht.chars c (hText ▸ List.mem_cons_self)
    simp only [write, IsWord, hText, List.cons_append, endsWord_cons_iff]
    exact iff_of_false (not_not_intro hc) (not_not_intro trivial)

/-- What is laid out ends a word before it, unless it begins with a word and no blank. -/
theorem endsWord_layOut_iff {trailing : Nat} {row : List Spaced}
    (h : ∀ s ∈ row, s.token.Writable) :
    EndsWord (layOut trailing row) ↔
      ∀ s, row.head? = some s → s.token.IsWord → 0 < s.blanks := by
  cases row with
  | nil => exact iff_of_true (endsWord_blanks trailing) fun _ hNone => nomatch hNone
  | cons s row =>
    have hs := h s List.mem_cons_self
    rw [layOut, List.head?_cons]
    obtain ⟨n, t⟩ := s
    cases n with
    | zero =>
      have hWrite := endsWord_write_iff hs (layOut trailing row)
      simp only [blanks, List.replicate_zero, List.nil_append, hWrite]
      grind
    | succ n =>
      refine iff_of_true (endsWord_cons (by decide) _) ?_
      intro s' hEq _
      cases hEq
      exact Nat.succ_pos n

/-! ## What is laid out is read -/

theorem lexes_blanks {cs : List Char} {ts : List Token} (h : Lexes cs ts) (n : Nat) :
    Lexes (blanks n ++ cs) ts := by
  induction n with
  | zero => exact h
  | succ n ih => exact .blank ih

theorem lexes_layOut {trailing : Nat} {row : List Spaced} (h : ∀ s ∈ row, s.token.Writable)
    (hSeparated : Separated row) : Lexes (layOut trailing row) (row.map Spaced.token) := by
  induction row with
  | nil =>
    have hBlanks := lexes_blanks .nil trailing
    rwa [List.append_nil] at hBlanks
  | cons s row ih =>
    obtain ⟨hs, hRow⟩ := List.forall_mem_cons.mp h
    obtain ⟨hNext, hTail⟩ := separated_cons.mp hSeparated
    have hEnd : s.token.IsWord → EndsWord (layOut trailing row) := by
      intro hWord
      exact (endsWord_layOut_iff hRow).mpr fun t ht => hNext t ht hWord
    exact lexes_blanks (lexes_write hs hEnd (ih hRow hTail)) s.blanks

/-! ## What is read is laid out -/

/-- There is only one way to write the body of a pattern. -/
theorem Body.eq_escape {s m : List Char} (h : Body s m) : s = escape m := by
  induction h with
  | nil => rfl
  | plain hSlash _ _ ih => rw [escape, List.flatMap_cons, if_neg hSlash, ih, escape]; rfl
  | slash _ ih => rw [escape, List.flatMap_cons, if_pos rfl, ih, escape]; rfl

theorem WordToken.write_eq {text : String} {t : Token} (h : WordToken text t) :
    t.write = text.toList := by
  cases h <;> rfl

/-- The layout is a separated one of these tokens, and reads as these characters. -/
structure LaysOut (trailing : Nat) (row : List Spaced) (cs : List Char) (ts : List Token) :
    Prop where
  separated : Separated row
  tokens : row.map Spaced.token = ts
  chars : layOut trailing row = cs

namespace LaysOut

variable {trailing : Nat} {row : List Spaced} {cs : List Char} {ts : List Token}

theorem writable (h : LaysOut trailing row cs ts) (hLexes : Lexes cs ts) :
    ∀ s ∈ row, s.token.Writable := by
  intro s hs
  refine writable_of_lexes hLexes s.token ?_
  rw [← h.tokens]
  exact List.mem_map_of_mem hs

/-- One more token in front, with no blank between it and what follows. -/
theorem cons {t : Token} (h : LaysOut trailing row cs ts) (hLexes : Lexes cs ts)
    (hEnd : t.IsWord → EndsWord cs) :
    LaysOut trailing (⟨0, t⟩ :: row) (t.write ++ cs) (t :: ts) where
  separated := by
    refine separated_cons.mpr ⟨fun s hs hWord => ?_, h.separated⟩
    have hEndLayout := hEnd hWord
    rw [← h.chars, endsWord_layOut_iff (h.writable hLexes)] at hEndLayout
    exact hEndLayout s hs
  tokens := congrArg (t :: ·) h.tokens
  chars := congrArg (t.write ++ ·) h.chars

end LaysOut

theorem exists_layOut_of_lexes {cs : List Char} {ts : List Token} (h : Lexes cs ts) :
    ∃ trailing row, LaysOut trailing row cs ts := by
  induction h with
  | nil => exact ⟨0, [], List.IsChain.nil, rfl, rfl⟩
  | blank _ ih =>
    obtain ⟨trailing, row, hSeparated, rfl, rfl⟩ := ih
    -- the blank belongs to the first token, or to the end if there is none
    cases row with
    | nil => exact ⟨trailing + 1, [], hSeparated, rfl, rfl⟩
    | cons s row =>
      exact ⟨trailing, ⟨s.blanks + 1, s.token⟩ :: row, hSeparated.indent _, rfl, rfl⟩
  | openParen hLexes ih =>
    obtain ⟨trailing, row, hRow⟩ := ih
    exact ⟨trailing, _, hRow.cons (t := .openParen) hLexes False.elim⟩
  | closeParen hLexes ih =>
    obtain ⟨trailing, row, hRow⟩ := ih
    exact ⟨trailing, _, hRow.cons (t := .closeParen) hLexes False.elim⟩
  | @word w cs t ts _ _ hEnd ht hLexes ih =>
    obtain ⟨trailing, row, hRow⟩ := ih
    have hWrite := hRow.cons hLexes fun _ : t.IsWord => hEnd
    rw [ht.write_eq, String.toList_ofList] at hWrite
    exact ⟨trailing, _, hWrite⟩
  | @pattern s m cs ts hs hLexes ih =>
    obtain ⟨trailing, row, hRow⟩ := ih
    have hWrite := hRow.cons (t := .pattern (String.ofList m)) hLexes False.elim
    rw [write, String.toList_ofList, ← hs.eq_escape, List.cons_append, List.append_assoc] at hWrite
    exact ⟨trailing, _, hWrite⟩

/-- The lexer finds only writable tokens, and it finds them in every separated layout of them and
nowhere else. -/
theorem tokenize_inverts_layout :
    (∀ text ts, tokenize text = .ok ts → ∀ t ∈ ts, t.Writable) ∧
    (∀ trailing row, (∀ s ∈ row, s.token.Writable) → Separated row →
      tokenize (String.ofList (layOut trailing row)) = .ok (row.map Spaced.token)) ∧
    (∀ text ts, tokenize text = .ok ts →
      ∃ trailing row, LaysOut trailing row text.toList ts) := by
  refine ⟨fun text ts h => ?_, fun trailing row h hSeparated => ?_, fun text ts h => ?_⟩
  · exact writable_of_lexes (tokenize_eq_ok_iff.mp h)
  · rw [tokenize_eq_ok_iff, String.toList_ofList]
    exact lexes_layOut h hSeparated
  · exact exists_layOut_of_lexes (tokenize_eq_ok_iff.mp h)

/-- A pattern with a slash, a blank and a parenthesis in it needs no blanks around it, while the
operators here have them. -/
theorem tokenize_inverts_layout_pattern :
    tokenize "  NOT a/b\\/ (/c)   OR " =
      .ok [.not, .word "a", .pattern "b/ (", .word "c", .closeParen, .or] ∧
    (∀ t ∈ [.not, .word "a", .pattern "b/ (", .word "c", .closeParen, .or], Writable t) ∧
    ∃ trailing row, LaysOut trailing row "  NOT a/b\\/ (/c)   OR ".toList
      [.not, .word "a", .pattern "b/ (", .word "c", .closeParen, .or] := by
  obtain ⟨hWritable, hReads, hLaysOut⟩ := tokenize_inverts_layout
  have hTokens := hReads 1 [⟨2, .not⟩, ⟨1, .word "a"⟩, ⟨0, .pattern "b/ ("⟩, ⟨0, .word "c"⟩,
    ⟨0, .closeParen⟩, ⟨3, .or⟩] (by decide) (by decide)
  exact ⟨hTokens, hWritable _ _ hTokens, hLaysOut _ _ hTokens⟩

end Lexer

end LineSieve
