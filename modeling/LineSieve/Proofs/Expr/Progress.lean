import LineSieve.Proofs.Expr.Unlimited

/-!
# How far the parser gets

The parser's loop as a relation between the tokens shifted so far and the stack they leave, on any
supply of tokens, also on one that never ends.

* `Reaches`: these tokens were shifted, each of them within the rounds, and this stack is left.
* `Overruns`: after these tokens, the shift of the next one takes up all rounds.
* `Outcome`: what can come of a run, with the tokens that were shifted. `outcome_parse` says that
  it is what comes of `parse`.
* `result_parse_of_reaches`: what is reached lies on the way of the parser, if the budget lasts.
* `result_parse_eq_tooManyReductions_iff`: the parser runs out of rounds exactly if the shift of one
  of the first 1000 tokens does.
-/

namespace LineSieve

namespace TokenSupply

/-- These are the first tokens of the supply. -/
def StartsWith (supply : TokenSupply) (ts : List Token) : Prop :=
  ∀ i < ts.length, supply i = ts[i]?

theorem startsWith_nil (supply : TokenSupply) : supply.StartsWith [] :=
  fun i hi => absurd hi (Nat.not_lt_zero i)

theorem StartsWith.append {supply : TokenSupply} {ts : List Token} {t : Token}
    (h : supply.StartsWith ts) (hToken : supply ts.length = some t) :
    supply.StartsWith (ts ++ [t]) := by
  intro i hi
  rw [List.length_append, List.length_singleton] at hi
  by_cases hLast : i = ts.length
  · subst hLast
    rw [hToken, List.getElem?_concat_length]
  · have hBefore : i < ts.length := by omega
    rw [List.getElem?_append_left hBefore]
    exact h i hBefore

theorem StartsWith.length_le {supply : TokenSupply} {ts : List Token} {n : Nat}
    (h : supply.StartsWith ts) (hEnd : supply n = none) : ts.length ≤ n := by
  refine Nat.le_of_not_lt fun hn => ?_
  have hToken := h n hn
  rw [hEnd, List.getElem?_eq_getElem hn] at hToken
  cases hToken

end TokenSupply

namespace Parser

variable {supply : TokenSupply} {ts : List Token} {stack : Stack}

/-! ## The loop -/

/-- The parser has shifted the first tokens `ts` of the supply, has found after each of them that no
rule applies any more, and is left with `stack`. -/
inductive Reaches (supply : TokenSupply) : List Token → Stack → Prop where
  | start : Reaches supply [] []
  | shift {ts : List Token} {t : Token} {stack stack' : Stack} (h : Reaches supply ts stack)
      (hToken : supply ts.length = some t)
      (hSettle : settle (supply (ts.length + 1)) maxRounds (.token t :: stack) = .ok stack') :
      Reaches supply (ts ++ [t]) stack'

/-- After the tokens `ts`, the shift of `t` ends for want of rounds. -/
inductive Overruns (supply : TokenSupply) (ts : List Token) (t : Token) : Prop where
  | intro {stack : Stack} (h : Reaches supply ts stack) (hToken : supply ts.length = some t)
      (hSettle : settle (supply (ts.length + 1)) maxRounds (.token t :: stack) =
        .error .tooManyReductions) : Overruns supply ts t

/-- What can come of a run that has shifted the tokens. -/
inductive Outcome (supply : TokenSupply) : List Token → Except ParseError Expr → Prop where
  | empty (hEnd : supply 0 = none) : Outcome supply [] (.ok Expr.any)
  | finished {ts : List Token} {stack : Stack} (h : Reaches supply ts stack) (hne : ts ≠ [])
      (hLength : ts.length ≤ maxTokens) (hEnd : supply ts.length = none) :
      Outcome supply ts (finish stack)
  | tooManyTokens {ts : List Token} {stack : Stack} (h : Reaches supply ts stack)
      (hLength : ts.length = maxTokens) (hMore : supply ts.length ≠ none) :
      Outcome supply ts (.error .tooManyTokens)
  | tooManyReductions {ts : List Token} {t : Token} (h : Overruns supply ts t)
      (hLength : ts.length < maxTokens) : Outcome supply (ts ++ [t]) (.error .tooManyReductions)

theorem Reaches.startsWith (h : Reaches supply ts stack) : supply.StartsWith ts := by
  induction h with
  | start => exact supply.startsWith_nil
  | shift _ hToken _ ih => exact ih.append hToken

theorem Reaches.of_isPrefix {us : List Token} (h : Reaches supply us stack) (hBefore : ts <+: us) :
    ∃ stack', Reaches supply ts stack' := by
  induction h with
  | start =>
    rw [List.prefix_nil.mp hBefore]
    exact ⟨[], .start⟩
  | shift h hToken hSettle ih =>
    rcases List.prefix_concat_iff.mp hBefore with rfl | hBefore
    · exact ⟨_, h.shift hToken hSettle⟩
    · exact ih hBefore

namespace Outcome

variable {result : Except ParseError Expr}

theorem startsWith (h : Outcome supply ts result) : supply.StartsWith ts := by
  cases h with
  | empty => exact supply.startsWith_nil
  | finished h => exact h.startsWith
  | tooManyTokens h => exact h.startsWith
  | tooManyReductions h =>
    obtain ⟨h, hToken, -⟩ := h
    exact h.startsWith.append hToken

/-- Before each token that was shifted, the parser was where the loop leads. -/
theorem exists_reaches {us : List Token} {t : Token} (h : Outcome supply us result)
    (hBefore : ts ++ [t] <+: us) : ∃ stack, Reaches supply ts stack := by
  have hShorter : ts <+: us := (List.prefix_append ts [t]).trans hBefore
  cases h with
  | empty => exact absurd (List.prefix_nil.mp hBefore) (by simp)
  | finished h => exact h.of_isPrefix hShorter
  | tooManyTokens h => exact h.of_isPrefix hShorter
  | @tooManyReductions us t' h =>
    obtain ⟨h, -, -⟩ := h
    rcases List.prefix_concat_iff.mp hBefore with hLast | hBefore
    · obtain ⟨rfl, -⟩ := List.append_inj' hLast rfl
      exact ⟨_, h⟩
    · exact h.of_isPrefix ((List.prefix_append ts [t]).trans hBefore)

theorem length_le (h : Outcome supply ts result) : ts.length ≤ maxTokens := by
  cases h with
  | empty => exact Nat.zero_le _
  | finished _ _ hLength => exact hLength
  | tooManyTokens _ hLength => exact Nat.le_of_eq hLength
  | tooManyReductions _ hLength =>
    rw [List.length_append, List.length_singleton]
    exact hLength

end Outcome

/-! ## Runs follow the loop -/

theorem outcome_shift {budget : Nat} {t : Token} (h : Reaches supply ts stack)
    (hToken : supply ts.length = some t) (hBudget : ts.length + budget = maxTokens) :
    Outcome supply (ts ++ (shift supply budget t (ts.length + 1) stack).shifted)
      (shift supply budget t (ts.length + 1) stack).result := by
  -- what is left of the budget and what was shifted always make up the whole of it
  induction budget generalizing ts t stack with
  | zero =>
    have hMore : supply ts.length ≠ none := by
      rw [hToken]
      exact Option.some_ne_none t
    simp only [shift, List.append_nil]
    exact .tooManyTokens h hBudget hMore
  | succ budget ih =>
    have hLength : (ts ++ [t]).length = ts.length + 1 := List.length_append
    rcases shift_cases supply budget t (ts.length + 1) stack with ⟨hSettle, hRun⟩ |
        ⟨stack', hSettle, hEnd, hRun⟩ | ⟨stack', t', hSettle, hNext, hRun⟩
    · rw [hRun]
      exact .tooManyReductions ⟨h, hToken, hSettle⟩ (by omega)
    · have hWithin : (ts ++ [t]).length ≤ maxTokens := by omega
      rw [hRun]
      rw [← hLength] at hEnd
      exact .finished (h.shift hToken hSettle) (by simp) hWithin hEnd
    · rw [hRun]
      rw [← hLength] at hNext
      have hRest := ih (h.shift hToken hSettle) hNext (by omega)
      rwa [hLength, List.append_assoc, List.singleton_append] at hRest

theorem outcome_parse (supply : TokenSupply) :
    Outcome supply (parse supply).shifted (parse supply).result := by
  unfold parse
  split
  · rename_i hEnd
    exact .empty hEnd
  · rename_i t hToken
    have hRun := outcome_shift (.start : Reaches supply [] []) hToken (Nat.zero_add _)
    rwa [List.nil_append] at hRun

/-- What is reached within the budget lies on the way of the parser. -/
theorem result_parse_of_reaches (h : Reaches supply ts stack) {t : Token}
    (hToken : supply ts.length = some t) (hLength : ts.length ≤ maxTokens) :
    (parse supply).result =
      (shift supply (maxTokens - ts.length) t (ts.length + 1) stack).result := by
  induction h generalizing t with
  | start =>
    rw [List.length_nil] at hToken
    simp only [parse, hToken]
    rfl
  | @shift ts t' stack stack' _ hToken' hSettle ih =>
    rw [List.length_append, List.length_singleton] at hToken hLength ⊢
    have hBudget : maxTokens - ts.length = maxTokens - (ts.length + 1) + 1 := by omega
    rw [ih hToken' (by omega), hBudget, shift_of_next hSettle hToken]
    rfl

/-- The parser runs out of rounds exactly if it does so after one of the tokens within its
budget. -/
theorem result_parse_eq_tooManyReductions_iff :
    (parse supply).result = .error .tooManyReductions ↔
      ∃ ts t, ts.length < maxTokens ∧ Overruns supply ts t := by
  constructor
  · intro hResult
    have hOutcome := outcome_parse supply
    generalize (parse supply).shifted = us at hOutcome
    generalize (parse supply).result = result at hOutcome hResult
    cases hOutcome with
    | empty => cases hResult
    | finished => exact absurd hResult (finish_ne_error (by decide))
    | tooManyTokens => cases hResult
    | @tooManyReductions ts t h hLength => exact ⟨ts, t, hLength, h⟩
  · rintro ⟨ts, t, hLength, h, hToken, hSettle⟩
    have hBudget : maxTokens - ts.length = maxTokens - (ts.length + 1) + 1 := by omega
    rw [result_parse_of_reaches h hToken (by omega), hBudget, shift_of_overrun hSettle]

end Parser

end LineSieve
