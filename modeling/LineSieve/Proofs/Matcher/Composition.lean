import LineSieve.Matcher.Engines
import LineSieve.Proofs.Expr.Group
import LineSieve.Proofs.Expr.Printing
import LineSieve.Proofs.Matcher.Levels

/-!
# Texts of expressions put together

A text that stands for an expression can be put into parentheses and combined with others by the
operator words. The text that arises stands for the expressions combined by the operators, and it is
compiled to the combined matchers, one level deeper.

* `Lexer.lexes_group`: a row of tokens stays what it is between parentheses.
* `Expr.parse_group` and its siblings: what texts with parentheses and operator words stand for.
* `compile_apply`: an operator in a text becomes the operator on the compiled matchers.
* `texts_compose`: what this means for a group, a negation, and two groups with an operator.
-/

namespace LineSieve

/-! ## Tokens -/

namespace Lexer

theorem lexes_group {cs ds : List Char} {ts us : List Token} (h : Lexes cs ts)
    (h' : Lexes ds us) :
    Lexes ('(' :: (cs ++ ')' :: ds)) (.openParen :: (ts ++ .closeParen :: us)) :=
  .openParen (lexes_append h (.closeParen h') (endsWord_cons (by decide) _))

/-- An operator word before a group, with a blank between them. -/
theorem lexes_operator_group {name : String} {t : Token} {cs : List Char} {ts : List Token}
    (ht : WordToken name t) (hne : name.toList ≠ []) (hw : ∀ c ∈ name.toList, WordChar c)
    (h : Lexes cs ts) :
    Lexes (name.toList ++ ' ' :: '(' :: (cs ++ [')'])) (t :: .openParen :: (ts ++ [.closeParen])) :=
  lexes_word ht hne hw (endsWord_cons (by decide) _) (.blank (lexes_group h .nil))

end Lexer

namespace Expr

/-- The text has at least one token, and the expression is what it stands for. -/
structure StandsFor (text : String) (e : Expr) : Prop where
  tokens : ∃ ts, tokenize text = .ok ts ∧ ts ≠ []
  parse : parse text = .ok e

/-- The text has tokens, and the statement holds of it if they are no more than the parser takes. -/
def UnlessTooLong (text : String) (statement : String → Prop) : Prop :=
  ∃ ts, tokenize text = .ok ts ∧ (ts.length ≤ 1000 → statement text)

theorem StandsFor.exists_accepts {text : String} {e : Expr} (h : StandsFor text e) :
    ∃ ts, Lexer.Lexes text.toList ts ∧ Parser.Accepts ts e := by
  obtain ⟨ts, hTokens, hne⟩ := h.tokens
  refine ⟨ts, Lexer.tokenize_eq_ok_iff.mp hTokens, Parser.accepts_of_parseTokens hne ?_⟩
  have hParse := h.parse
  rw [parse_of_tokenize hTokens] at hParse
  cases hRun : (Parser.parseTokens ts).result with
  | error failure =>
    rw [hRun] at hParse
    cases hParse
  | ok e' =>
    rw [hRun] at hParse
    cases hParse
    rfl

theorem parse_of_accepts {text : String} {ts : List Token} {e : Expr}
    (hTokens : Lexer.Lexes text.toList ts) (h : Parser.Accepts ts e) :
    UnlessTooLong text fun text => parse text = .ok e := by
  have hText := Lexer.tokenize_eq_ok_iff.mpr hTokens
  refine ⟨ts, hText, fun hLength => ?_⟩
  have hRun := h.result_eq_ok hLength
  simp only [parse_of_tokenize hText, hRun, Except.mapError]

theorem UnlessTooLong.of_tokenize {text : String} {ts : List Token} {p : String → Prop}
    (h : UnlessTooLong text p) (hTokens : tokenize text = .ok ts) (hLength : ts.length ≤ 1000) :
    p text := by
  obtain ⟨us, hTokens', hp⟩ := h
  rw [hTokens] at hTokens'
  cases hTokens'
  exact hp hLength

theorem UnlessTooLong.imp {text : String} {p q : String → Prop} (h : UnlessTooLong text p)
    (hImp : p text → q text) : UnlessTooLong text q := by
  obtain ⟨ts, hTokens, hp⟩ := h
  exact ⟨ts, hTokens, fun hLength => hImp (hp hLength)⟩

/-! ## Expressions -/

variable {s t : String} {e f : Expr}

theorem parse_group (hs : StandsFor s e) :
    UnlessTooLong ("(" ++ s ++ ")") fun text => parse text = .ok e := by
  obtain ⟨ts, hTokens, hAccepts⟩ := hs.exists_accepts
  refine parse_of_accepts ?_ hAccepts.group
  simpa using Lexer.lexes_group hTokens .nil

theorem parse_not_group (hs : StandsFor s e) :
    UnlessTooLong ("NOT (" ++ s ++ ")") fun text => parse text = .ok (.apply .not [e]) := by
  obtain ⟨ts, hTokens, hAccepts⟩ := hs.exists_accepts
  refine parse_of_accepts ?_ hAccepts.not_group
  simpa using Lexer.lexes_operator_group .not (by decide) (by decide) hTokens

theorem parse_and_groups (hs : StandsFor s e) (ht : StandsFor t f) :
    UnlessTooLong ("(" ++ s ++ ") AND (" ++ t ++ ")") fun text =>
      parse text = .ok (.apply .and [e, f]) := by
  obtain ⟨ts, hTokens, hAccepts⟩ := hs.exists_accepts
  obtain ⟨us, hTokens', hAccepts'⟩ := ht.exists_accepts
  refine parse_of_accepts ?_ (hAccepts.and_groups hAccepts')
  have hRight := Lexer.lexes_operator_group .and (by decide) (by decide) hTokens'
  simpa using Lexer.lexes_group hTokens (.blank hRight)

theorem parse_or_groups (hs : StandsFor s e) (ht : StandsFor t f) :
    UnlessTooLong ("(" ++ s ++ ") OR (" ++ t ++ ")") fun text =>
      parse text = .ok (.apply .or [e, f]) := by
  obtain ⟨ts, hTokens, hAccepts⟩ := hs.exists_accepts
  obtain ⟨us, hTokens', hAccepts'⟩ := ht.exists_accepts
  refine parse_of_accepts ?_ (hAccepts.or_groups hAccepts')
  have hRight := Lexer.lexes_operator_group .or (by decide) (by decide) hTokens'
  simpa using Lexer.lexes_group hTokens (.blank hRight)

end Expr

namespace Compiler

open LineSieve.Expr

variable {P : Type} {engine : Engine P} {maxDepth : Nat}

/-! ## Matchers -/

/-- The matchers are built one by one for the expressions. -/
abbrev BuiltEach (engine : Engine P) (maxDepth : Nat) : List Expr → List (Matcher P) → Prop :=
  List.Forall₂ fun e m => (build engine maxDepth e).result = .ok m

/-- An operator adds one level to its operands. -/
theorem build_apply {op : Operator} {es : List Expr} {ms : List (Matcher P)}
    (h : BuiltEach engine maxDepth es ms) :
    (build engine (maxDepth + 1) (.apply op es)).result = .ok (.apply op ms) := by
  simp only [BuiltEach, build_eq_ok_iff, List.forall₂_and_left] at h ⊢
  obtain ⟨hDepth, hLowers⟩ := h
  refine ⟨?_, .apply op hLowers⟩
  rw [depth, depthBelow_le_iff]
  exact fun e he => Nat.succ_le_succ (hDepth e he)

/-- Texts whose expressions are those of other texts below an operator are compiled to the matchers
of these below the operator. -/
theorem compile_apply {text : String} {op : Operator} {es : List Expr} {ms : List (Matcher P)}
    (hText : UnlessTooLong text fun text => parse text = .ok (.apply op es))
    (h : BuiltEach engine maxDepth es ms) :
    UnlessTooLong text fun text =>
      (compile engine (maxDepth + 1) text).result = .ok (.apply op ms) := by
  refine hText.imp fun hParse => ?_
  rw [result_compile hParse]
  exact build_apply h

/-- Parentheses change nothing about a text, and operator words combine what texts in parentheses
stand for. -/
theorem texts_compose (engine : Engine P) (maxDepth : Nat) {s t : String} {e f : Expr}
    (hs : StandsFor s e) (ht : StandsFor t f) :
    (UnlessTooLong ("(" ++ s ++ ")") fun text => parse text = .ok e) ∧
    (UnlessTooLong ("NOT (" ++ s ++ ")") fun text => parse text = .ok (.apply .not [e])) ∧
    (UnlessTooLong ("(" ++ s ++ ") AND (" ++ t ++ ")") fun text =>
      parse text = .ok (.apply .and [e, f])) ∧
    (UnlessTooLong ("(" ++ s ++ ") OR (" ++ t ++ ")") fun text =>
      parse text = .ok (.apply .or [e, f])) ∧
    (∀ m, (compile engine maxDepth s).result = .ok m →
      (UnlessTooLong ("(" ++ s ++ ")") fun text => (compile engine maxDepth text).result = .ok m) ∧
      (UnlessTooLong ("NOT (" ++ s ++ ")") fun text =>
        (compile engine (maxDepth + 1) text).result = .ok m.not)) ∧
    (∀ m n, (compile engine maxDepth s).result = .ok m →
      (compile engine maxDepth t).result = .ok n →
      (UnlessTooLong ("(" ++ s ++ ") AND (" ++ t ++ ")") fun text =>
        (compile engine (maxDepth + 1) text).result = .ok (m.and n)) ∧
      (UnlessTooLong ("(" ++ s ++ ") OR (" ++ t ++ ")") fun text =>
        (compile engine (maxDepth + 1) text).result = .ok (m.or n))) := by
  have hGroup := parse_group hs
  have hNot := parse_not_group hs
  have hAnd := parse_and_groups hs ht
  have hOr := parse_or_groups hs ht
  refine ⟨hGroup, hNot, hAnd, hOr, fun m hm => ?_, fun m n hm hn => ?_⟩
  · rw [result_compile hs.parse] at hm
    refine ⟨hGroup.imp fun hParse => ?_, compile_apply hNot (.cons hm .nil)⟩
    rw [result_compile hParse]
    exact hm
  · rw [result_compile hs.parse] at hm
    rw [result_compile ht.parse] at hn
    have hBoth : BuiltEach engine maxDepth [e, f] [m, n] := .cons hm (.cons hn .nil)
    exact ⟨compile_apply hAnd hBoth, compile_apply hOr hBoth⟩

/-- `x OR /b/` would lose its right operand to an `AND` that follows, and `NOT y` ends in a word. -/
theorem texts_compose_or_not :
    StandsFor "x OR /b/" (.apply .or [.word "x", .pattern "b"]) ∧
    StandsFor "NOT y" (.apply .not [.word "y"]) ∧
    parse "(x OR /b/) AND (NOT y)" =
      .ok (.apply .and [.apply .or [.word "x", .pattern "b"], .apply .not [.word "y"]]) ∧
    (compile Engine.occurrences 2 "(x OR /b/) AND (NOT y)").result =
      .ok ((Matcher.or (.substring "x") (.pattern "b")).and (Matcher.not (.substring "y"))) := by
  have hLeft : StandsFor "x OR /b/" (.apply .or [.word "x", .pattern "b"]) :=
    ⟨⟨[.word "x", .or, .pattern "b"], rfl, List.cons_ne_nil _ _⟩, by rfl⟩
  have hRight : StandsFor "NOT y" (.apply .not [.word "y"]) :=
    ⟨⟨[.not, .word "y"], rfl, List.cons_ne_nil _ _⟩, by rfl⟩
  obtain ⟨-, -, hParse, -, -, hCompile⟩ := texts_compose Engine.occurrences 1 hLeft hRight
  have hTokens : tokenize ("(" ++ "x OR /b/" ++ ") AND (" ++ "NOT y" ++ ")") =
      .ok [.openParen, .word "x", .or, .pattern "b", .closeParen, .and, .openParen, .not,
        .word "y", .closeParen] := by rfl
  refine ⟨hLeft, hRight, hParse.of_tokenize hTokens (by decide), ?_⟩
  exact (hCompile _ _ ((result_compile hLeft.parse).trans rfl)
    ((result_compile hRight.parse).trans rfl)).1.of_tokenize hTokens (by decide)

end Compiler

end LineSieve
