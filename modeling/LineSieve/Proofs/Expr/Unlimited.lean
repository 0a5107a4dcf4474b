import LineSieve.Proofs.Expr.Reduction

/-!
# The parser without limits

* `stackAfter`: the stack after tokens, with all reductions done after each of them.
* `reductionCounts`: the number of reductions after each token.
* `proceed`: the same run, begun with reductions that are still due. It can be followed one
  reduction or one shift at a time (`proceed_of_reduces`, `proceed_shift`).
* `shift_cases`: what the shift of one token can come to, for a parser within its limits.
* `result_shift`: the parser within its limits ends with that stack if its budget suffices and no
  count reaches the limit of rounds (`WithinRounds`). A parser that succeeds has met both
  (`withinRounds_and_stackAfter_of_ok`).
-/

namespace LineSieve.Parser

/-! ## Runs without limits -/

/-- The stack after the tokens, all reductions being done after each. -/
def stackAfter (stack : Stack) : List Token → Stack
  | [] => stack
  | t :: ts => stackAfter (reduced ts.head? (.token t :: stack)) ts

/-- How many reductions are done after each token. -/
def reductionCounts (stack : Stack) : List Token → List Nat
  | [] => []
  | t :: ts =>
    reductions ts.head? (.token t :: stack) ::
      reductionCounts (reduced ts.head? (.token t :: stack)) ts

/-- The limit of rounds suffices after each token. -/
def WithinRounds (stack : Stack) (ts : List Token) : Prop :=
  ∀ n ∈ reductionCounts stack ts, n < maxRounds

theorem withinRounds_cons {stack : Stack} {t : Token} {ts : List Token} :
    WithinRounds stack (t :: ts) ↔ reductions ts.head? (.token t :: stack) < maxRounds ∧
      WithinRounds (reduced ts.head? (.token t :: stack)) ts := List.forall_mem_cons

/-- The stack after the tokens when reductions may be due before the first. -/
def proceed (stack : Stack) (ts : List Token) : Stack := stackAfter (reduced ts.head? stack) ts

theorem proceed_of_reduces {stack stack' : Stack} {ts : List Token}
    (h : Reduces ts.head? stack stack') : proceed stack ts = proceed stack' ts := by
  simp only [proceed, reduced_of_reduces h]

theorem proceed_shift {stack : Stack} {t : Token} {ts : List Token}
    (h : reduce? (some t) stack = none) :
    proceed stack (t :: ts) = proceed (.token t :: stack) ts := by
  simp only [proceed, List.head?_cons, reduced_of_none h, stackAfter]

theorem stackAfter_nil_eq_proceed (ts : List Token) : stackAfter [] ts = proceed [] ts := by
  rw [proceed, reduced_of_none]
  rfl

/-! ## One shift -/

section

variable {supply : TokenSupply} {budget i : Nat} {t t' : Token} {stack stack' : Stack}

theorem shift_of_overrun
    (hSettle : settle (supply i) maxRounds (.token t :: stack) = .error .tooManyReductions) :
    shift supply (budget + 1) t i stack = ⟨[t], 1, .error .tooManyReductions⟩ := by
  simp only [shift, hSettle]
  rfl

theorem shift_of_end (hSettle : settle (supply i) maxRounds (.token t :: stack) = .ok stack')
    (hEnd : supply i = none) :
    shift supply (budget + 1) t i stack = ⟨[t], 1, finish stack'⟩ := by
  simp only [shift, hSettle]
  rw [hEnd]
  rfl

theorem shift_of_next (hSettle : settle (supply i) maxRounds (.token t :: stack) = .ok stack')
    (hNext : supply i = some t') :
    shift supply (budget + 1) t i stack =
      Run.after t (shift supply budget t' (i + 1) stack') := by
  simp only [shift, hSettle]
  rw [hNext]

/-- All that a shift within the budget can come to. -/
theorem shift_cases (supply : TokenSupply) (budget : Nat) (t : Token) (i : Nat) (stack : Stack) :
    (settle (supply i) maxRounds (.token t :: stack) = .error .tooManyReductions ∧
      shift supply (budget + 1) t i stack = ⟨[t], 1, .error .tooManyReductions⟩) ∨
    (∃ stack', settle (supply i) maxRounds (.token t :: stack) = .ok stack' ∧ supply i = none ∧
      shift supply (budget + 1) t i stack = ⟨[t], 1, finish stack'⟩) ∨
    (∃ stack' t', settle (supply i) maxRounds (.token t :: stack) = .ok stack' ∧
      supply i = some t' ∧ shift supply (budget + 1) t i stack =
        Run.after t (shift supply budget t' (i + 1) stack')) := by
  cases hSettle : settle (supply i) maxRounds (.token t :: stack) with
  | error e =>
    obtain ⟨-, rfl⟩ := settle_eq_error_iff.mp hSettle
    exact Or.inl ⟨rfl, shift_of_overrun hSettle⟩
  | ok stack' =>
    cases hNext : supply i with
    | none => exact Or.inr (Or.inl ⟨stack', rfl, rfl, shift_of_end hSettle hNext⟩)
    | some t' => exact Or.inr (Or.inr ⟨stack', t', rfl, rfl, shift_of_next hSettle hNext⟩)

end

/-! ## Runs within limits -/

/-- From position `i` on the supply gives these tokens and then ends. -/
def Supplies (supply : TokenSupply) : Nat → List Token → Prop
  | i, [] => supply i = none
  | i, t :: ts => supply i = some t ∧ Supplies supply (i + 1) ts

theorem Supplies.head? {supply : TokenSupply} {i : Nat} {ts : List Token}
    (h : Supplies supply i ts) : supply i = ts.head? := by
  cases ts with
  | nil => exact h
  | cons t ts => exact h.1

theorem supplies_ofList_append (us ts : List Token) :
    Supplies (TokenSupply.ofList (us ++ ts)) us.length ts := by
  induction ts generalizing us with
  | nil => simp [Supplies, TokenSupply.ofList, TokenSupply.ofArray]
  | cons t ts ih =>
    refine ⟨by simp [TokenSupply.ofList, TokenSupply.ofArray], ?_⟩
    have h := ih (us ++ [t])
    rwa [List.append_assoc, List.singleton_append, List.length_append] at h

theorem supplies_ofList (ts : List Token) : Supplies (TokenSupply.ofList ts) 0 ts :=
  supplies_ofList_append [] ts

theorem finish_eq_ok_iff {stack : Stack} {e : Expr} : finish stack = .ok e ↔ stack = [.tree e] := by
  unfold finish
  split
  · simp
  · rename_i hOther
    constructor
    · intro h
      cases h
    · intro h
      exact absurd h (hOther e)

theorem finish_eq_malformed {stack : Stack} (h : ∀ e, stack ≠ [.tree e]) :
    finish stack = .error .malformed := by
  unfold finish
  split
  · rename_i e
    exact absurd rfl (h e)
  · rfl

theorem finish_ne_error {stack : Stack} {e : ParseError} (h : e ≠ .malformed) :
    finish stack ≠ .error e := by
  unfold finish
  split
  · exact nofun
  · intro hFinish
    cases hFinish
    exact h rfl

/-- One token of a bounded run. -/
theorem result_shift_succ {supply : TokenSupply} {budget i : Nat} {token : Token} {stack : Stack}
    {ts : List Token} (hSupply : Supplies supply i ts) :
    (shift supply (budget + 1) token i stack).result =
      if reductions ts.head? (.token token :: stack) < maxRounds then
        match ts with
        | [] => finish (reduced none (.token token :: stack))
        | t :: _ =>
          (shift supply budget t (i + 1) (reduced (some t) (.token token :: stack))).result
      else .error .tooManyReductions := by
  by_cases hRounds : reductions ts.head? (.token token :: stack) < maxRounds
  · have hSettle : settle (supply i) maxRounds (.token token :: stack) =
        .ok (reduced ts.head? (.token token :: stack)) := by
      rw [hSupply.head?]
      exact settle_eq_ok_iff.mpr ⟨hRounds, rfl⟩
    rw [if_pos hRounds]
    cases ts with
    | nil => rw [shift_of_end hSettle hSupply, List.head?_nil]
    | cons t ts =>
      rw [shift_of_next hSettle hSupply.1]
      rfl
  · have hSettle : settle (supply i) maxRounds (.token token :: stack) =
        .error .tooManyReductions := by
      rw [hSupply.head?]
      exact settle_eq_error_iff.mpr ⟨Nat.not_lt.mp hRounds, rfl⟩
    rw [if_neg hRounds, shift_of_overrun hSettle]

theorem result_shift {supply : TokenSupply} {budget i : Nat} {token : Token} {stack : Stack}
    {ts : List Token} (hSupply : Supplies supply i ts) (hBudget : ts.length < budget)
    (hRounds : WithinRounds stack (token :: ts)) :
    (shift supply budget token i stack).result = finish (stackAfter stack (token :: ts)) := by
  induction ts generalizing budget i token stack with
  | nil =>
    obtain ⟨budget, rfl⟩ := Nat.exists_eq_succ_of_ne_zero (Nat.ne_zero_of_lt hBudget)
    rw [result_shift_succ hSupply, if_pos (withinRounds_cons.mp hRounds).1]
    rfl
  | cons t ts ih =>
    obtain ⟨budget, rfl⟩ := Nat.exists_eq_succ_of_ne_zero (Nat.ne_zero_of_lt hBudget)
    obtain ⟨hHead, hTail⟩ := withinRounds_cons.mp hRounds
    rw [result_shift_succ hSupply, if_pos hHead]
    exact ih hSupply.2 (Nat.lt_of_succ_lt_succ hBudget) hTail

/-- A bounded run that succeeds is the run without limits, and the limit of rounds sufficed. -/
theorem withinRounds_and_stackAfter_of_ok {supply : TokenSupply} {budget i : Nat} {token : Token}
    {stack : Stack} {ts : List Token} {e : Expr} (hSupply : Supplies supply i ts)
    (h : (shift supply budget token i stack).result = .ok e) :
    WithinRounds stack (token :: ts) ∧ stackAfter stack (token :: ts) = [.tree e] := by
  rw [withinRounds_cons]
  induction ts generalizing budget i token stack with
  | nil =>
    cases budget with
    | zero => cases h
    | succ budget =>
      rw [result_shift_succ hSupply] at h
      split at h
      · rename_i hHead
        exact ⟨⟨hHead, fun _ hn => nomatch hn⟩, finish_eq_ok_iff.mp h⟩
      · cases h
  | cons t ts ih =>
    cases budget with
    | zero => cases h
    | succ budget =>
      rw [result_shift_succ hSupply] at h
      split at h
      · rename_i hHead
        obtain ⟨hTail, hStack⟩ := ih hSupply.2 h
        exact ⟨⟨hHead, withinRounds_cons.mpr hTail⟩, hStack⟩
      · cases h

end LineSieve.Parser
