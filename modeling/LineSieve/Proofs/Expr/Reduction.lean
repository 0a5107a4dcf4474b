import LineSieve.Expr.Parser

/-!
# Reductions of the parser's stack

What one reduction can do, and what remains when reductions go on without a limit.

* `Reduces`: the rules one by one; `reduce?_eq_some_iff` says that they are what `reduce?` does.
* `exhaust`: the stack to which no rule applies any more (`reduced`), and how many rules were
  applied on the way (`reductions`). Every rule makes the stack lighter, so that there is an end.
* `settle_eq`: the bounded loop reaches that stack if its bound exceeds the number of reductions,
  since its last round must find no rule to apply. Otherwise it gives up. `settle_eq_ok_iff` and
  `settle_eq_error_iff` say when it does the one and the other.
-/

namespace LineSieve.Parser

/-! ## One reduction -/

/-- The rules of the parser, the token `next` being ahead. -/
inductive Reduces (next : Option Token) : Stack → Stack → Prop where
  | word (text : String) (rest : Stack) :
      Reduces next (.token (.word text) :: rest) (.tree (.word text) :: rest)
  | pattern (text : String) (rest : Stack) :
      Reduces next (.token (.pattern text) :: rest) (.tree (.pattern text) :: rest)
  | not (e : Expr) (rest : Stack) :
      Reduces next (.tree e :: .token .not :: rest) (.tree (.apply .not [e]) :: rest)
  | and (l r : Expr) (rest : Stack) :
      Reduces next (.tree r :: .token .and :: .tree l :: rest) (.tree (.apply .and [l, r]) :: rest)
  | or (l r : Expr) (rest : Stack) (h : endsOr next = true) :
      Reduces next (.tree r :: .token .or :: .tree l :: rest) (.tree (.apply .or [l, r]) :: rest)
  | group (e : Expr) (rest : Stack) :
      Reduces next (.token .closeParen :: .tree e :: .token .openParen :: rest) (.tree e :: rest)

variable {next : Option Token} {stack stack' : Stack}

theorem reduces_of_reduce? (h : reduce? next stack = some stack') : Reduces next stack stack' := by
  unfold reduce? at h
  split at h
  · cases h
    exact .word _ _
  · cases h
    exact .pattern _ _
  · cases h
    exact .not _ _
  · cases h
    exact .and _ _ _
  · split at h
    · rename_i hNext
      cases h
      exact .or _ _ _ hNext
    · cases h
  · cases h
    exact .group _ _
  · cases h

theorem reduce?_eq_some_iff : reduce? next stack = some stack' ↔ Reduces next stack stack' := by
  refine ⟨reduces_of_reduce?, fun h => ?_⟩
  cases h with
  | or l r rest hNext => simp [reduce?, hNext]
  | _ => rfl

/-! ## All reductions -/

/-- A measure of a stack that every reduction lowers. -/
def weight : Stack → Nat
  | [] => 0
  | .token _ :: rest => weight rest + 2
  | .tree _ :: rest => weight rest + 1

theorem weight_lt_of_reduces (h : Reduces next stack stack') : weight stack' < weight stack := by
  cases h <;> simp only [weight] <;> omega

/-- Reduces as long as a rule applies: the stack that is left, and the number of reductions. -/
def exhaust (next : Option Token) (stack : Stack) : Stack × Nat :=
  match hStep : reduce? next stack with
  | none => (stack, 0)
  | some stack' => ((exhaust next stack').1, (exhaust next stack').2 + 1)
  termination_by weight stack
  decreasing_by all_goals exact weight_lt_of_reduces (reduces_of_reduce? hStep)

/-- The stack that is left when no rule applies any more. -/
def reduced (next : Option Token) (stack : Stack) : Stack := (exhaust next stack).1

/-- How many rules apply, one after the other. -/
def reductions (next : Option Token) (stack : Stack) : Nat := (exhaust next stack).2

theorem exhaust_of_none (h : reduce? next stack = none) : exhaust next stack = (stack, 0) := by
  rw [exhaust]
  split
  · rfl
  · rename_i hSome
    rw [h] at hSome
    cases hSome

theorem exhaust_of_reduces (h : Reduces next stack stack') :
    exhaust next stack = (reduced next stack', reductions next stack' + 1) := by
  have hSome := reduce?_eq_some_iff.mpr h
  rw [exhaust]
  split
  · rename_i hNone
    rw [hSome] at hNone
    cases hNone
  · rename_i other hOther
    rw [hSome] at hOther
    cases hOther
    rfl

theorem reduced_of_none (h : reduce? next stack = none) : reduced next stack = stack := by
  rw [reduced, exhaust_of_none h]

theorem reductions_of_none (h : reduce? next stack = none) : reductions next stack = 0 := by
  rw [reductions, exhaust_of_none h]

theorem reduced_of_reduces (h : Reduces next stack stack') :
    reduced next stack = reduced next stack' := by
  rw [reduced, exhaust_of_reduces h]

theorem reductions_of_reduces (h : Reduces next stack stack') :
    reductions next stack = reductions next stack' + 1 := by
  rw [reductions, exhaust_of_reduces h]

/-- What rules keep holds of the stack that is left. -/
theorem reduced_induction {P : Stack → Prop} (h : P stack)
    (hStep : ∀ s s', P s → Reduces next s s' → P s') : P (reduced next stack) := by
  fun_induction exhaust next stack with
  | case1 stack hNone =>
    rw [reduced_of_none hNone]
    exact h
  | case2 stack stack' hSome ih =>
    have hReduces := reduces_of_reduce? hSome
    rw [reduced_of_reduces hReduces]
    exact ih (hStep _ _ h hReduces)

theorem reduce?_reduced (next : Option Token) (stack : Stack) :
    reduce? next (reduced next stack) = none := by
  fun_induction exhaust next stack with
  | case1 stack hNone =>
    rw [reduced_of_none hNone]
    exact hNone
  | case2 stack stack' hSome ih =>
    rw [reduced_of_reduces (reduces_of_reduce? hSome)]
    exact ih

/-! ## The bounded loop -/

theorem settle_eq (next : Option Token) (rounds : Nat) (stack : Stack) :
    settle next rounds stack =
      if reductions next stack < rounds then .ok (reduced next stack)
      else .error .tooManyReductions := by
  induction rounds generalizing stack with
  | zero => simp [settle]
  | succ rounds ih =>
    rw [settle]
    cases hStep : reduce? next stack with
    | none => simp [reduced_of_none hStep, reductions_of_none hStep]
    | some stack' =>
      have hReduces := reduces_of_reduce? hStep
      simp [ih, reduced_of_reduces hReduces, reductions_of_reduces hReduces]

theorem settle_eq_ok_iff {rounds : Nat} : settle next rounds stack = .ok stack' ↔
    reductions next stack < rounds ∧ reduced next stack = stack' := by
  rw [settle_eq]
  split
  · rename_i hFew
    simp [hFew]
  · rename_i hMany
    simp [hMany]

theorem settle_eq_error_iff {rounds : Nat} {e : ParseError} : settle next rounds stack = .error e ↔
    rounds ≤ reductions next stack ∧ e = .tooManyReductions := by
  rw [settle_eq]
  split
  · rename_i hFew
    simp [Nat.not_le.mpr hFew]
  · rename_i hMany
    simp [Nat.not_lt.mp hMany, eq_comm]

end LineSieve.Parser
