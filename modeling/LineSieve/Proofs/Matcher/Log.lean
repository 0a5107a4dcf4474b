import LineSieve.Matcher.Compiler
import LineSieve.Matcher.Engines
import LineSieve.Proofs.Expr.Progress
import LineSieve.Proofs.Token.Layout

/-!
# What compiling logs

A compilation logs what its parser shifts, token by token, and then the expression, if there is one.
How far the parser gets depends on its answer: to the last token if it knows what to make of them,
else to the end of its budget, or up to the token whose shift takes all rounds.

* `Parser.Shifts`: which of the tokens are shifted for an answer of the parser.
* `shifts_parseTokens`: the runs of the parser are of this kind.
* `log_compile`: the log of a compilation, by the answer of the parser.
* `log_records_shifts`: the log of any compilation, with its records of either level.
-/

namespace LineSieve

/-! ## Tokens that are shifted -/

namespace TokenSupply

theorem isPrefix_of_startsWith {ts us : List Token} (h : (ofList ts).StartsWith us) :
    us <+: ts := by
  rw [List.prefix_iff_getElem?]
  intro i hi
  have hToken := h i hi
  rw [List.getElem?_eq_getElem hi] at hToken
  simpa [ofList, ofArray] using hToken

theorem ofList_eq_none_iff {ts : List Token} {i : Nat} : ofList ts i = none ↔ ts.length ≤ i := by
  simp [ofList, ofArray]

end TokenSupply

namespace Parser

/-- Which of the tokens the parser has shifted when it answers. Tokens that make no expression are
all shifted, like those that make one. -/
inductive Shifts (ts : List Token) : List Token → Except ParseError Expr → Prop where
  | ok (e : Expr) : Shifts ts ts (.ok e)
  | malformed : Shifts ts ts (.error .malformed)
  | tooManyTokens (h : 1000 < ts.length) : Shifts ts (ts.take 1000) (.error .tooManyTokens)
  | tooManyReductions {before after : List Token} {t : Token} (h : ts = before ++ t :: after)
      (hOverruns : Overruns (.ofList ts) before t) :
      Shifts ts (before ++ [t]) (.error .tooManyReductions)

theorem shifts_finish (ts : List Token) (stack : Stack) : Shifts ts ts (finish stack) := by
  cases hFinish : finish stack with
  | ok e => exact .ok e
  | error e =>
    have hMalformed : e = .malformed := by
      by_contra hOther
      exact finish_ne_error hOther hFinish
    rw [hMalformed]
    exact .malformed

theorem shifts_of_outcome {ts us : List Token} {result : Except ParseError Expr}
    (h : Outcome (.ofList ts) us result) : Shifts ts us result := by
  have hPrefix := TokenSupply.isPrefix_of_startsWith h.startsWith
  cases h with
  | empty hEnd =>
    have hNil : ts = [] := List.eq_nil_of_length_eq_zero
      (Nat.le_zero.mp (TokenSupply.ofList_eq_none_iff.mp hEnd))
    subst hNil
    exact .ok Expr.any
  | finished _ _ _ hEnd =>
    have hAll : us = ts := hPrefix.eq_of_length_le (TokenSupply.ofList_eq_none_iff.mp hEnd)
    subst hAll
    exact shifts_finish _ _
  | tooManyTokens _ hLength hMore =>
    have hLonger : us.length < ts.length := by
      rw [Ne, TokenSupply.ofList_eq_none_iff] at hMore
      omega
    have hTake : us = ts.take us.length := List.prefix_iff_eq_take.mp hPrefix
    rw [hLength] at hTake hLonger
    subst hTake
    exact .tooManyTokens hLonger
  | @tooManyReductions before t hOverruns =>
    obtain ⟨after, hAll⟩ := hPrefix
    have hSplit : ts = before ++ t :: after := by simpa using hAll.symm
    exact .tooManyReductions hSplit hOverruns

theorem shifts_parseTokens (ts : List Token) :
    Shifts ts (parseTokens ts).shifted (parseTokens ts).result :=
  shifts_of_outcome (outcome_parse _)

end Parser

/-! ## Records -/

namespace Compiler

variable {P : Type} (engine : Engine P) (maxDepth : Nat) {text : String}

/-- The record of the expression that the parser answers with. -/
def expressionRecords (text : String) : Except ParseError Expr → List LogRecord
  | .ok e => [compileRecord text e]
  | .error _ => []

theorem log_compile_of_error {e : LexicalError} (h : tokenize text = .error e) :
    (compile engine maxDepth text).log = [] := by
  simp only [compile, Expr.read, h]
  rfl

theorem log_compile {ts : List Token} (h : tokenize text = .ok ts) :
    (compile engine maxDepth text).log =
      (Parser.parseTokens ts).shifted.map Expr.shiftRecord ++
        expressionRecords text (Parser.parseTokens ts).result := by
  simp only [compile, Expr.read, h]
  cases (Parser.parseTokens ts).result with
  | error e => exact (List.append_nil _).symm
  | ok e => rfl

theorem filter_trace_shiftRecords (ts : List Token) :
    (ts.map Expr.shiftRecord).filter (·.level = .trace) = ts.map Expr.shiftRecord := by
  simp [Expr.shiftRecord]

theorem filter_debug_shiftRecords (ts : List Token) :
    (ts.map Expr.shiftRecord).filter (·.level = .debug) = [] := by
  simp [Expr.shiftRecord]

theorem filter_trace_expressionRecords (text : String) (result : Except ParseError Expr) :
    (expressionRecords text result).filter (·.level = .trace) = [] := by
  cases result <;> simp [expressionRecords, compileRecord]

theorem filter_debug_expressionRecords (text : String) (result : Except ParseError Expr) :
    (expressionRecords text result).filter (·.level = .debug) = expressionRecords text result := by
  cases result <;> simp [expressionRecords, compileRecord]

/-- A text of blanks has no tokens. -/
theorem tokenize_blank (h : ∀ c ∈ text.toList, c = ' ') : tokenize text = .ok [] := by
  rw [Lexer.tokenize_eq_ok_iff, List.eq_replicate_of_mem h]
  have hBlanks := Lexer.lexes_blanks .nil text.toList.length
  rwa [List.append_nil] at hBlanks

/-- The log of a compilation, at its most detailed. A lexical error leaves it empty. Else it has one
line for each token that the parser shifts, in their order, and after these the line of the
expression, if the parser finds one, with its tree and its depth. Of a blank text this is the only
line. What becomes of the expression makes no difference, so neither do the engine and the limit. -/
theorem log_records_shifts (text : String) :
    let log := (compile engine maxDepth text).log
    let shiftLine (t : Token) : LogRecord := ⟨.trace, "bmatch::parser", "shift " ++ t.display⟩
    let expressionLine (e : Expr) : LogRecord := ⟨.debug, "bmatch::matcher",
      "compile " ++ Text.quote text ++ " as " ++ e.explain ++ " with depth " ++ toString e.depth⟩
    (∀ e, tokenize text = .error e → log = []) ∧
    (∀ ts, tokenize text = .ok ts → ∃ shifted,
      Parser.Shifts ts shifted (Parser.parseTokens ts).result ∧
      log.filter (·.level = .trace) = shifted.map shiftLine ∧
      (∀ e, (Parser.parseTokens ts).result = .ok e →
        log = shifted.map shiftLine ++ [expressionLine e] ∧
        log.filter (·.level = .debug) = [expressionLine e]) ∧
      (∀ e, (Parser.parseTokens ts).result = .error e →
        log = shifted.map shiftLine ∧ log.filter (·.level = .debug) = [])) ∧
    ((∀ c ∈ text.toList, c = ' ') → log = [expressionLine .any]) ∧
    (∀ {Q : Type} (engine' : Engine Q) (maxDepth' : Nat),
      (compile engine' maxDepth' text).log = log) := by
  intro log shiftLine expressionLine
  refine ⟨fun e h => log_compile_of_error engine maxDepth h, fun ts h => ?_, fun hBlank => ?_,
    fun engine' maxDepth' => ?_⟩
  · have hLog : log = _ := log_compile engine maxDepth h
    refine ⟨_, Parser.shifts_parseTokens ts, ?_, fun e hOk => ?_, fun e hError => ?_⟩
    · rw [hLog, List.filter_append, filter_trace_shiftRecords, filter_trace_expressionRecords,
        List.append_nil]
      rfl
    · rw [hOk] at hLog
      refine ⟨hLog, ?_⟩
      rw [hLog, List.filter_append, filter_debug_shiftRecords, filter_debug_expressionRecords,
        List.nil_append]
      rfl
    · rw [hError, expressionRecords, List.append_nil] at hLog
      exact ⟨hLog, hLog ▸ filter_debug_shiftRecords _⟩
  · exact log_compile engine maxDepth (tokenize_blank hBlank)
  · cases hTokens : tokenize text with
    | error e =>
      exact (log_compile_of_error engine' maxDepth' hTokens).trans
        (log_compile_of_error engine maxDepth hTokens).symm
    | ok ts =>
      exact (log_compile engine' maxDepth' hTokens).trans (log_compile engine maxDepth hTokens).symm

/-- An open pattern, words without an operator, a blank, and an expression that is too deep. -/
theorem log_records_shifts_too_deep :
    (compile Engine.occurrences 0 "/x").log = [] ∧
    (compile Engine.occurrences 0 "a b").log =
      [⟨.trace, "bmatch::parser", "shift \"a\""⟩, ⟨.trace, "bmatch::parser", "shift \"b\""⟩] ∧
    (compile Engine.occurrences 0 " ").log =
      [⟨.debug, "bmatch::matcher", "compile \" \" as '' with depth 0"⟩] ∧
    (compile Engine.occurrences 0 "NOT a").result = .error (.tooDeep 1) ∧
    (compile Engine.occurrences 0 "NOT a").log =
      [⟨.trace, "bmatch::parser", "shift NOT"⟩, ⟨.trace, "bmatch::parser", "shift \"a\""⟩,
        ⟨.debug, "bmatch::matcher", "compile \"NOT a\" as NOT['a'] with depth 1"⟩] := by
  obtain ⟨hOpen, -, -, -⟩ := log_records_shifts Engine.occurrences 0 "/x"
  obtain ⟨-, hWords, -, -⟩ := log_records_shifts Engine.occurrences 0 "a b"
  obtain ⟨-, -, hBlank, -⟩ := log_records_shifts Engine.occurrences 0 " "
  obtain ⟨-, hDeep, -, -⟩ := log_records_shifts Engine.occurrences 0 "NOT a"
  have hTokens : tokenize "NOT a" = .ok [.not, .word "a"] := by rfl
  have hTooDeep : (compile Engine.occurrences 0 "NOT a").result = .error (.tooDeep 1) := by
    simp only [compile, Expr.read, hTokens]
    rfl
  have hMalformed : (Parser.parseTokens [.word "a", .word "b"]).result = .error .malformed := rfl
  have hParsed : (Parser.parseTokens [.not, .word "a"]).result = .ok (.apply .not [.word "a"]) :=
    rfl
  obtain ⟨words, hWordShifts, -, -, hWordLog⟩ := hWords [.word "a", .word "b"] (by rfl)
  obtain ⟨deep, hDeepShifts, -, hDeepLog, -⟩ := hDeep [.not, .word "a"] hTokens
  rw [hMalformed] at hWordShifts
  rw [hParsed] at hDeepShifts
  cases hWordShifts
  cases hDeepShifts
  exact ⟨hOpen (.unclosedPattern "x") (by rfl), (hWordLog _ hMalformed).1.trans (by decide +kernel),
    (hBlank (by simp)).trans (by decide +kernel), hTooDeep,
    (hDeepLog _ hParsed).1.trans (by decide +kernel)⟩

end Compiler

end LineSieve
