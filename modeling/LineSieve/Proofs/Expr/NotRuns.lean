import LineSieve.Proofs.Expr.Acceptance
import LineSieve.Proofs.Expr.Progress

/-!
# Only runs of `NOT` take many reductions

Neither groups that nest deep nor long chains of `AND` and `OR` nor tokens that make no sense can
exhaust the rounds of the parser.

* `covers_of_reaches`: the stacks that the parser comes to stand for the tokens it has shifted.
* `few_reductions_without_nots`: how many reductions come after a token in a run of the parser, and
  why a run of more than 96 tokens `NOT` is needed to exhaust the rounds.
-/

namespace LineSieve.Parser

variable {supply : TokenSupply} {ts : List Token} {t : Token} {stack : Stack}

/-- One more token keeps the invariant, and so does the whole run. -/
theorem covers_of_reaches (h : Reaches supply ts stack) :
    Covers (supply ts.length) stack ts ∧ reduce? (supply ts.length) stack = none := by
  induction h with
  | start => exact ⟨.nil, rfl⟩
  | @shift ts t stack stack' _ hToken hSettle ih =>
    obtain ⟨hc, hSettled⟩ := ih
    rw [hToken] at hc hSettled
    have hLength : (ts ++ [t]).length = ts.length + 1 := List.length_append
    obtain ⟨-, rfl⟩ := settle_eq_ok_iff.mp hSettle
    rw [hLength]
    exact ⟨covers_reduced (.token hc hSettled), reduce?_reduced _ _⟩

theorem lt_operandNots_of_overruns (h : Overruns supply ts t) : 96 < operandNots ts t := by
  obtain ⟨hReaches, hToken, hSettle⟩ := h
  have hc := (covers_of_reaches hReaches).1
  rw [hToken] at hc
  have hFew := reductions_le_operandNots hc (supply (ts.length + 1))
  have hMany : 100 ≤ _ := (settle_eq_error_iff.mp hSettle).1
  omega

/-- The parser goes through its loop. There no reduction follows an operator or an opening
parenthesis, whatever was read before, and at most three more than there are tokens `NOT` right
before an operand follow the token that completes it. Hence only a run of more than 96 tokens `NOT`
can exhaust the rounds. -/
theorem few_reductions_without_nots (supply : TokenSupply) :
    (∀ ts t, ts ++ [t] <+: (parse supply).shifted → ∃ stack, Reaches supply ts stack) ∧
    (∀ ts stack t, Reaches supply ts stack → supply ts.length = some t →
      (t ∈ [Token.not, .and, .or, .openParen] →
        reductions (supply (ts.length + 1)) (.token t :: stack) = 0) ∧
      reductions (supply (ts.length + 1)) (.token t :: stack) ≤ operandNots ts t + 3) ∧
    ((∀ ts, supply.StartsWith ts → NotRunsAtMost 96 ts) →
      (parse supply).result ≠ .error .tooManyReductions) := by
  refine ⟨fun ts t hBefore => (outcome_parse supply).exists_reaches hBefore,
    fun ts stack t hReaches hToken => ⟨fun ht => ?_, ?_⟩, fun hNots hResult => ?_⟩
  · exact reductions_eq_zero ht _ _
  · have hc := (covers_of_reaches hReaches).1
    rw [hToken] at hc
    exact reductions_le_operandNots hc _
  · obtain ⟨ts, t, -, hOverruns⟩ := result_parse_eq_tooManyReductions_iff.mp hResult
    have hMany := lt_operandNots_of_overruns hOverruns
    obtain ⟨hReaches, -, -⟩ := hOverruns
    have hFew := (hNots ts hReaches.startsWith).le (replicate_operandNots_isInfix ts t)
    omega

/-- In `a OR b AND NOT ( c )` the last parenthesis is followed by all the reductions that can be: of
the group, of the one `NOT` before it, of `AND` and of `OR`. -/
theorem few_reductions_without_nots_group :
    (∃ stack, Reaches
      (.ofList [.word "a", .or, .word "b", .and, .not, .openParen, .word "c", .closeParen])
      [.word "a", .or, .word "b", .and, .not, .openParen, .word "c"] stack) ∧
    (Reaches (.ofList [.word "a", .or, .word "b", .and, .not, .openParen, .word "c", .closeParen])
        [.word "a", .or, .word "b", .and, .not, .openParen, .word "c"]
        [.tree (.word "c"), .token .openParen, .token .not, .token .and, .tree (.word "b"),
          .token .or, .tree (.word "a")] ∧
      operandNots [.word "a", .or, .word "b", .and, .not, .openParen, .word "c"] .closeParen = 1 ∧
      reductions none [.token .closeParen, .tree (.word "c"), .token .openParen, .token .not,
        .token .and, .tree (.word "b"), .token .or, .tree (.word "a")] = 4 ∧
      reductions none [.token .closeParen, .tree (.word "c"), .token .openParen, .token .not,
        .token .and, .tree (.word "b"), .token .or, .tree (.word "a")] ≤ 1 + 3 ∧
      reductions (some .not) [.token .and, .tree (.word "b"), .token .or, .tree (.word "a")] = 0) ∧
    (parse (.ofList [.word "a", .or, .word "b", .and, .not, .openParen, .word "c",
      .closeParen])).result ≠ .error .tooManyReductions := by
  obtain ⟨hShifted, hCounts, hRounds⟩ := few_reductions_without_nots
    (.ofList [.word "a", .or, .word "b", .and, .not, .openParen, .word "c", .closeParen])
  have hAnd : Reaches
      (.ofList [.word "a", .or, .word "b", .and, .not, .openParen, .word "c", .closeParen])
      [.word "a", .or, .word "b"] [.tree (.word "b"), .token .or, .tree (.word "a")] :=
    ((Reaches.start.shift rfl rfl).shift rfl rfl).shift rfl rfl
  have hClose := (((hAnd.shift rfl rfl).shift rfl rfl).shift rfl rfl).shift rfl rfl
  refine ⟨hShifted _ .closeParen ⟨[], rfl⟩, ⟨hClose, rfl, ?_,
    (hCounts _ _ .closeParen hClose rfl).2, (hCounts _ _ .and hAnd rfl).1 (by decide)⟩,
    hRounds fun ts hts => ?_⟩
  · rw [reductions_of_reduces (.group _ _), reductions_of_reduces (.not _ _),
      reductions_of_reduces (.and _ _ _), reductions_of_reduces (.or _ _ _ rfl),
      reductions_of_none rfl]
  · have hShort : ts.length ≤ 8 := hts.length_le rfl
    exact notRunsAtMost_of_length_le (by omega)

end LineSieve.Parser
