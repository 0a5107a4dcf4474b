import LineSieve.Proofs.Expr.Progress
import Mathlib.Data.ENat.Lattice

/-!
# The tokens the parser asks for

The parser takes no token more than it needs, and of a supply that goes on for too long it looks at
one token beyond its budget.

* `TokenSupply.count`: the number of tokens before a supply ends for the first time.
* `asked_parse`: every token that is shifted is asked for, and one more.
* `parse_congr`: what was not asked for does not matter, not even to what is asked for.
* `token_budget_exact`: how the number of tokens, the budget and the answers hang together.
-/

namespace LineSieve

namespace TokenSupply

/-- How many tokens the supply gives before it ends for the first time, `⊤` if it never ends. -/
noncomputable def count (supply : TokenSupply) : ℕ∞ := ⨅ (i : Nat) (_ : supply i = none), (i : ℕ∞)

variable {supply : TokenSupply} {n : Nat}

theorem count_le (h : supply n = none) : supply.count ≤ n := iInf₂_le n h

theorem le_count_iff : (n : ℕ∞) ≤ supply.count ↔ ∀ i < n, supply i ≠ none := by
  rw [count, le_iInf₂_iff]
  constructor
  · intro h i hi hEnd
    have hLe : n ≤ i := ENat.natCast_le_natCast.mp (h i hEnd)
    omega
  · intro h i hEnd
    exact ENat.natCast_le_natCast.mpr (Nat.le_of_not_lt fun hi => h i hi hEnd)

theorem lt_count_iff : (n : ℕ∞) < supply.count ↔ ∀ i ≤ n, supply i ≠ none := by
  constructor
  · intro h i hi hEnd
    have hLe : supply.count ≤ n := (count_le hEnd).trans (ENat.natCast_le_natCast.mpr hi)
    exact hLe.not_gt h
  · intro h
    have hSupplied : ((n + 1 : Nat) : ℕ∞) ≤ supply.count :=
      le_count_iff.mpr fun i hi => h i (Nat.le_of_lt_succ hi)
    exact lt_of_lt_of_le (ENat.natCast_lt_natCast.mpr (Nat.lt_succ_self n)) hSupplied

theorem StartsWith.length_le_count {ts : List Token} (h : supply.StartsWith ts) :
    (ts.length : ℕ∞) ≤ supply.count :=
  le_count_iff.mpr fun _ hi hEnd => Nat.not_lt.mpr (h.length_le hEnd) hi

theorem StartsWith.count_eq {ts : List Token} (h : supply.StartsWith ts)
    (hEnd : supply ts.length = none) : supply.count = ts.length :=
  le_antisymm (count_le hEnd) h.length_le_count

/-- The tokens, and then one and the same token without end. -/
def endless (ts : List Token) (t : Token) : TokenSupply := fun i => some (ts.getD i t)

theorem lt_count_endless (n : Nat) (ts : List Token) (t : Token) :
    (n : ℕ∞) < (endless ts t).count := lt_count_iff.mpr fun _ _ => Option.some_ne_none _

/-- The tokens and an end, after which others follow. -/
def resumed (ts us : List Token) : TokenSupply :=
  fun i => (ts.map some ++ none :: us.map some)[i]?.join

end TokenSupply

namespace Parser

variable {supply supply' : TokenSupply}

/-! ## Tokens asked for -/

theorem asked_shift (budget : Nat) (t : Token) (i : Nat) (stack : Stack) :
    (shift supply budget t i stack).asked = (shift supply budget t i stack).shifted.length := by
  induction budget generalizing t i stack with
  | zero => rfl
  | succ budget ih =>
    rcases shift_cases supply budget t i stack with ⟨-, hRun⟩ | ⟨stack', -, -, hRun⟩ |
        ⟨stack', t', -, -, hRun⟩
    · rw [hRun]
      rfl
    · rw [hRun]
      rfl
    · rw [hRun]
      exact congrArg (· + 1) (ih t' (i + 1) stack')

theorem asked_parse (supply : TokenSupply) :
    (parse supply).asked = (parse supply).shifted.length + 1 := by
  unfold parse
  split
  · rfl
  · exact congrArg (· + 1) (asked_shift _ _ _ _)

theorem shift_congr {budget : Nat} {t : Token} {i : Nat} {stack : Stack}
    (h : ∀ j, i ≤ j → j < i + (shift supply budget t i stack).asked → supply' j = supply j) :
    shift supply' budget t i stack = shift supply budget t i stack := by
  induction budget generalizing t i stack with
  | zero => rfl
  | succ budget ih =>
    have hAsked : 0 < (shift supply (budget + 1) t i stack).asked := Nat.succ_pos _
    have hHere : supply' i = supply i := h i (Nat.le_refl i) (by omega)
    rcases shift_cases supply budget t i stack with ⟨hSettle, hRun⟩ |
        ⟨stack', hSettle, hEnd, hRun⟩ | ⟨stack', t', hSettle, hNext, hRun⟩
    · rw [← hHere] at hSettle
      rw [hRun, shift_of_overrun hSettle]
    · rw [← hHere] at hSettle hEnd
      rw [hRun, shift_of_end hSettle hEnd]
    · rw [hRun] at h ⊢
      rw [← hHere] at hSettle hNext
      rw [shift_of_next hSettle hNext]
      refine congrArg (Run.after t) (ih fun j hLow hHigh => h j (by omega) ?_)
      simp only [Run.after]
      omega

/-- Supplies that agree on what the parser asks of one of them are parsed alike. -/
theorem parse_congr (h : ∀ i < (parse supply).asked, supply' i = supply i) :
    parse supply' = parse supply := by
  have hAsked : 0 < (parse supply).asked := by
    rw [asked_parse]
    exact Nat.succ_pos _
  have hFirst : supply' 0 = supply 0 := h 0 hAsked
  cases hToken : supply 0 with
  | none => simp only [parse, hFirst, hToken]
  | some t =>
    simp only [parse, hToken] at h
    have hRun : shift supply' maxTokens t 1 [] = shift supply maxTokens t 1 [] :=
      shift_congr fun j _ hHigh => h j (by omega)
    simp only [parse, hFirst, hToken, hRun]

/-! ## Answers -/

namespace Outcome

variable {ts : List Token} {result : Except ParseError Expr}

theorem lt_count_of_tooManyTokens (h : Outcome supply ts result)
    (hResult : result = .error .tooManyTokens) : (maxTokens : ℕ∞) < supply.count := by
  cases h with
  | empty => cases hResult
  | finished => exact absurd hResult (finish_ne_error (by decide))
  | tooManyTokens h hLength hMore =>
    refine TokenSupply.lt_count_iff.mpr fun i hi hEnd => ?_
    have hLast : ts.length ≤ i := h.startsWith.length_le hEnd
    obtain rfl : i = ts.length := by omega
    exact hMore hEnd
  | tooManyReductions => cases hResult

theorem tooManyTokens_of_lt_count (h : Outcome supply ts result)
    (hMany : (maxTokens : ℕ∞) < supply.count) (hRounds : result ≠ .error .tooManyReductions) :
    result = .error .tooManyTokens := by
  cases h with
  | empty hEnd => exact absurd hEnd (TokenSupply.lt_count_iff.mp hMany 0 (Nat.zero_le _))
  | finished _ _ hLength hEnd => exact absurd hEnd (TokenSupply.lt_count_iff.mp hMany _ hLength)
  | tooManyTokens => rfl
  | tooManyReductions => exact absurd rfl hRounds

theorem count_eq_of_malformed (h : Outcome supply ts result)
    (hResult : result = .error .malformed) : supply.count = ts.length := by
  cases h with
  | empty => cases hResult
  | finished h _ _ hEnd => exact h.startsWith.count_eq hEnd
  | tooManyTokens => cases hResult
  | tooManyReductions => cases hResult

/-- A run that no shift cuts short goes on to the end of the supply or of the budget. -/
theorem length_eq (h : Outcome supply ts result) (hRounds : result ≠ .error .tooManyReductions) :
    (ts.length : ℕ∞) = min supply.count maxTokens := by
  cases h with
  | empty hEnd =>
    have hCount : supply.count = 0 := supply.startsWith_nil.count_eq hEnd
    rw [hCount, List.length_nil, Nat.cast_zero, zero_min]
  | finished h _ hLength hEnd =>
    rw [h.startsWith.count_eq hEnd, min_eq_left (ENat.natCast_le_natCast.mpr hLength)]
  | tooManyTokens h hLength hMore =>
    have hMany := lt_count_of_tooManyTokens (.tooManyTokens h hLength hMore) rfl
    rw [min_eq_right hMany.le, hLength]
  | tooManyReductions => exact absurd rfl hRounds

end Outcome

/-- How the number of tokens, the budget of 1000 tokens and the answers hang together. Of any supply
the parser asks for the tokens up to its first end or up to one beyond the budget, unless it runs
out of rounds before, and nothing else matters to it. The budget is the answer for those supplies
that exceed it and no others, rounds permitting. That tokens are malformed is the answer only after
all of them. -/
theorem token_budget_exact (supply : TokenSupply) :
    supply.StartsWith (parse supply).shifted ∧
    ((parse supply).asked : ℕ∞) ≤ min supply.count 1000 + 1 ∧
    ((parse supply).result ≠ .error .tooManyReductions →
      ((parse supply).asked : ℕ∞) = min supply.count 1000 + 1) ∧
    (∀ supply' : TokenSupply, (∀ i < (parse supply).asked, supply' i = supply i) →
      parse supply' = parse supply) ∧
    (supply.count ≤ 1000 → (parse supply).result ≠ .error .tooManyTokens) ∧
    (1000 < supply.count →
      ((∃ ts t, ts.length < 1000 ∧ Overruns supply ts t) →
        (parse supply).result = .error .tooManyReductions) ∧
      ((¬ ∃ ts t, ts.length < 1000 ∧ Overruns supply ts t) →
        (parse supply).result = .error .tooManyTokens)) ∧
    ((parse supply).result = .error .malformed →
      supply.count = (parse supply).shifted.length) := by
  have hOutcome := outcome_parse supply
  have hStarts := hOutcome.startsWith
  have hAsked : ((parse supply).asked : ℕ∞) = (parse supply).shifted.length + 1 := by
    rw [asked_parse, Nat.cast_succ]
  have hWithin : ((parse supply).shifted.length : ℕ∞) ≤ min supply.count 1000 :=
    le_min hStarts.length_le_count (ENat.natCast_le_natCast.mpr hOutcome.length_le)
  refine ⟨hStarts, ?_, fun hRounds => ?_, fun supply' h => parse_congr h, fun hFew hResult => ?_,
    fun hMany => ⟨fun hOverruns => ?_, fun hRounds => ?_⟩, fun hResult => ?_⟩
  · rw [hAsked]
    exact add_le_add_left hWithin 1
  · rw [hAsked, hOutcome.length_eq hRounds]
    rfl
  · exact hFew.not_gt (hOutcome.lt_count_of_tooManyTokens hResult)
  · exact result_parse_eq_tooManyReductions_iff.mpr hOverruns
  · exact hOutcome.tooManyTokens_of_lt_count hMany fun hResult =>
      hRounds (result_parse_eq_tooManyReductions_iff.mp hResult)
  · exact hOutcome.count_eq_of_malformed hResult

/-- Opening parentheses without end exceed the budget; words without end after 99 tokens `NOT` run
out of rounds before; and `a )` is malformed, also where `OR b` follows after the end. -/
theorem token_budget_exact_endless :
    (1000 < (TokenSupply.endless [] .openParen).count ∧
      (¬ ∃ ts t, ts.length < 1000 ∧ Overruns (.endless [] .openParen) ts t) ∧
      (parse (.endless [] .openParen)).result = .error .tooManyTokens) ∧
    (1000 < (TokenSupply.endless (.replicate 99 .not) (.word "a")).count ∧
      (∃ ts t, ts.length < 1000 ∧ Overruns (.endless (.replicate 99 .not) (.word "a")) ts t) ∧
      (parse (.endless (.replicate 99 .not) (.word "a"))).result = .error .tooManyReductions) ∧
    (TokenSupply.ofList [.word "a", .closeParen]).count ≤ 1000 ∧
      (parse (.ofList [.word "a", .closeParen])).result ≠ .error .tooManyTokens ∧
      (parse (.ofList [.word "a", .closeParen])).result = .error .malformed ∧
      (TokenSupply.ofList [.word "a", .closeParen]).count = 2 ∧
      (parse (.ofList [.word "a", .closeParen])).asked = 3 ∧
      parse (.resumed [.word "a", .closeParen] [.or, .word "b"]) =
        parse (.ofList [.word "a", .closeParen]) := by
  obtain ⟨-, -, -, -, -, hParens, -⟩ := token_budget_exact (.endless [] .openParen)
  obtain ⟨-, -, -, -, -, hNots, -⟩ :=
    token_budget_exact (.endless (.replicate 99 .not) (.word "a"))
  obtain ⟨-, -, hAsked, hCongr, hFew, -, hMalformed⟩ :=
    token_budget_exact (.ofList [.word "a", .closeParen])
  have hNoOverrun : ¬ ∃ ts t, ts.length < 1000 ∧ Overruns (.endless [] .openParen) ts t := by
    rintro ⟨ts, t, -, @⟨stack, -, hToken, hSettle⟩⟩
    cases hToken
    have hMany := (settle_eq_error_iff.mp hSettle).1
    rw [reductions_of_none rfl] at hMany
    exact absurd hMany (by decide)
  have hOverrun : ∃ ts t, ts.length < 1000 ∧
      Overruns (.endless (.replicate 99 .not) (.word "a")) ts t :=
    result_parse_eq_tooManyReductions_iff.mp rfl
  have hCount : (TokenSupply.ofList [.word "a", .closeParen]).count = 2 := hMalformed rfl
  have hShort : (TokenSupply.ofList [.word "a", .closeParen]).count ≤ 1000 := by
    rw [hCount]
    exact ENat.natCast_le_natCast.mpr (by decide)
  have hThree : (parse (.ofList [.word "a", .closeParen])).asked = 3 := by
    have hExact := hAsked nofun
    rw [hCount, min_eq_left (hCount ▸ hShort)] at hExact
    exact ENat.natCast_inj.mp hExact
  have hAlike : ∀ i < (parse (.ofList [.word "a", .closeParen])).asked,
      TokenSupply.resumed [.word "a", .closeParen] [.or, .word "b"] i =
        TokenSupply.ofList [.word "a", .closeParen] i := by
    rw [hThree]
    decide
  exact ⟨⟨TokenSupply.lt_count_endless 1000 _ _, hNoOverrun,
      (hParens (TokenSupply.lt_count_endless 1000 _ _)).2 hNoOverrun⟩,
    ⟨TokenSupply.lt_count_endless 1000 _ _, hOverrun,
      (hNots (TokenSupply.lt_count_endless 1000 _ _)).1 hOverrun⟩,
    hShort, hFew hShort, rfl, hCount, hThree, hCongr _ hAlike⟩

end Parser

end LineSieve
