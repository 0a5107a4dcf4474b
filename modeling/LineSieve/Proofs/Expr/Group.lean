import LineSieve.Proofs.Expr.Acceptance

/-!
# Groups are parsed on their own

Tokens that the parser accepts on their own are accepted in a group too, wherever the group stands:

* no rule reaches below an opening parenthesis, except the one that closes its group, and a
  closing parenthesis that closes nothing stays on the stack for good
  (`unopened_suffix_stackAfter`). Hence the reductions in a group are those without it
  (`exhaust_append_openParen`).
* the end of a group allows the same reductions as the end of all tokens (`exhaust_closeParen`).

`withinRounds_group` says what the rounds in and after a group come to, so that the limit of rounds
does not stand in the way of putting accepted tokens together (`Accepts`).
-/

namespace LineSieve.Parser

open Grammar

variable {next : Option Token} {stack stack' : Stack}

/-! ## What lies below an opening parenthesis -/

/-- The stack with a parenthesis that closes no group. -/
def Unopened (e : Expr) : Stack := [.token .closeParen, .tree e]

theorem unopened_suffix_of_reduces {e : Expr} (h : Reduces next stack stack')
    (hSuffix : Unopened e <:+ stack) : Unopened e <:+ stack' := by
  cases h <;> simp_all [Unopened, List.suffix_cons_iff]

theorem unopened_suffix_reduced {e : Expr} (h : Unopened e <:+ stack) :
    Unopened e <:+ reduced next stack :=
  reduced_induction h fun _ _ hKeep hStep => unopened_suffix_of_reduces hStep hKeep

/-- Nothing that follows makes good for a parenthesis that closes no group. -/
theorem unopened_suffix_stackAfter {e : Expr} {ts : List Token} (h : Unopened e <:+ stack) :
    Unopened e <:+ stackAfter stack ts := by
  induction ts generalizing stack with
  | nil => exact h
  | cons t ts ih => exact ih (unopened_suffix_reduced (h.trans (List.suffix_cons _ _)))

theorem ne_unopened_of_stackAfter {e : Expr} {t : Token} {ts : List Token}
    (h : stackAfter stack (t :: ts) = [.tree e]) (e' : Expr) :
    .token t :: stack ≠ Unopened e' := by
  intro hEq
  have hSuffix : Unopened e' <:+ stackAfter stack (t :: ts) := by
    rw [stackAfter, hEq]
    exact unopened_suffix_stackAfter (unopened_suffix_reduced List.suffix_rfl)
  rw [h] at hSuffix
  simp [Unopened, List.suffix_cons_iff] at hSuffix

theorem ne_unopened_of_reduces (h : Reduces next stack stack') (e : Expr) :
    stack' ≠ Unopened e := by
  cases h <;> exact fun hEq => nomatch hEq

theorem reduces_append (h : Reduces next stack stack') (rest : Stack) :
    Reduces next (stack ++ rest) (stack' ++ rest) := by
  cases h with
  | word => exact .word _ _
  | pattern => exact .pattern _ _
  | not => exact .not _ _
  | and => exact .and _ _ _
  | or _ _ _ hNext => exact .or _ _ _ hNext
  | group => exact .group _ _

/-- No rule reaches below an opening parenthesis, unless it closes the group. -/
theorem exists_reduces_of_append_openParen {rest whole' : Stack}
    (hOpened : ∀ e, stack ≠ Unopened e)
    (h : Reduces next (stack ++ .token .openParen :: rest) whole') :
    ∃ stack', Reduces next stack stack' := by
  generalize hWhole : stack ++ .token .openParen :: rest = whole at h
  cases h
  all_goals simp only [List.append_eq_cons_iff, List.cons_eq_append_iff, List.cons.injEq,
    Item.token.injEq, reduceCtorEq, false_and, and_false, true_and, false_or] at hWhole
  case word =>
    obtain ⟨_, rfl, -⟩ := hWhole
    exact ⟨_, .word _ _⟩
  case pattern =>
    obtain ⟨_, rfl, -⟩ := hWhole
    exact ⟨_, .pattern _ _⟩
  case not =>
    obtain ⟨_, rfl, _, rfl, -⟩ := hWhole
    exact ⟨_, .not _ _⟩
  case and =>
    obtain ⟨_, rfl, _, rfl, _, rfl, -⟩ := hWhole
    exact ⟨_, .and _ _ _⟩
  case or hNext =>
    obtain ⟨_, rfl, _, rfl, _, rfl, -⟩ := hWhole
    exact ⟨_, .or _ _ _ hNext⟩
  case group e _ =>
    obtain ⟨_, rfl, _, rfl, ⟨rfl, -⟩ | ⟨_, rfl, -⟩⟩ := hWhole
    · exact absurd rfl (hOpened e)
    · exact ⟨_, .group _ _⟩

theorem exhaust_append_openParen (next : Option Token) (hOpened : ∀ e, stack ≠ Unopened e)
    (rest : Stack) :
    exhaust next (stack ++ .token .openParen :: rest) =
      (reduced next stack ++ .token .openParen :: rest, reductions next stack) := by
  fun_induction exhaust next stack with
  | case1 stack hNone =>
    rw [reduced_of_none hNone, reductions_of_none hNone]
    refine exhaust_of_none (Option.eq_none_iff_forall_ne_some.mpr fun whole' hSome => ?_)
    obtain ⟨stack', hReduces⟩ :=
      exists_reduces_of_append_openParen hOpened (reduces_of_reduce? hSome)
    rw [reduce?_eq_some_iff.mpr hReduces] at hNone
    cases hNone
  | case2 stack stack' hSome ih =>
    have hReduces := reduces_of_reduce? hSome
    have hRest := ih (ne_unopened_of_reduces hReduces)
    rw [exhaust_of_reduces (reduces_append hReduces _), reduced_of_reduces hReduces,
      reductions_of_reduces hReduces, reduced, reductions, hRest]

/-! ## The end of a group -/

theorem reduce?_closeParen (stack : Stack) :
    reduce? (some .closeParen) stack = reduce? none stack := by
  unfold reduce?
  rfl

theorem exhaust_closeParen (stack : Stack) :
    exhaust (some .closeParen) stack = exhaust none stack := by
  fun_induction exhaust none stack with
  | case1 stack hNone => exact exhaust_of_none ((reduce?_closeParen stack).trans hNone)
  | case2 stack stack' hSome ih =>
    have hReduces := reduces_of_reduce? ((reduce?_closeParen stack).trans hSome)
    rw [exhaust_of_reduces hReduces, reduced, reductions, ih]

theorem exhaust_head?_append_closeParen (ts us : List Token) (stack : Stack) :
    exhaust (ts ++ .closeParen :: us).head? stack = exhaust ts.head? stack := by
  cases ts with
  | nil => exact exhaust_closeParen stack
  | cons t ts => rfl

/-- Reductions in a group are those on the stack above it, also before the token that closes it. -/
theorem exhaust_within_group (hOpened : ∀ e, stack ≠ Unopened e) (rest : Stack)
    (ts us : List Token) :
    exhaust (ts ++ .closeParen :: us).head? (stack ++ .token .openParen :: rest) =
      (reduced ts.head? stack ++ .token .openParen :: rest, reductions ts.head? stack) := by
  rw [exhaust_append_openParen _ hOpened, reduced, reductions, exhaust_head?_append_closeParen]
  rfl

theorem reductionCounts_within_group {ts : List Token} {e : Expr}
    (h : stackAfter stack ts = [.tree e]) (rest : Stack) (us : List Token) :
    reductionCounts (stack ++ .token .openParen :: rest) (ts ++ .closeParen :: us) =
      reductionCounts stack ts ++
        reductionCounts (.tree e :: .token .openParen :: rest) (.closeParen :: us) := by
  induction ts generalizing stack with
  | nil =>
    rw [stackAfter] at h
    rw [h]
    rfl
  | cons t ts ih =>
    have hAlone := exhaust_within_group (ne_unopened_of_stackAfter h) rest ts us
    rw [List.cons_append] at hAlone
    rw [List.cons_append, reductionCounts, reductionCounts, List.cons_append, reductions, reduced,
      hAlone]
    exact congrArg _ (ih h)

/-- Only the parenthesis that closes a group can take more rounds than its tokens on their own. -/
theorem withinRounds_group {ts us : List Token} {e : Expr} {rest : Stack}
    (hTree : stackAfter [] ts = [.tree e]) (hRounds : WithinRounds [] ts)
    (hClose : reductions us.head? (.tree e :: rest) + 1 < maxRounds)
    (hAfter : WithinRounds (reduced us.head? (.tree e :: rest)) us) :
    WithinRounds rest (.openParen :: (ts ++ .closeParen :: us)) := by
  have hGroup : Reduces us.head? (.token .closeParen :: .tree e :: .token .openParen :: rest)
      (.tree e :: rest) := .group e rest
  refine withinRounds_cons.mpr ⟨?_, ?_⟩
  · rw [reductions_of_none rfl]
    exact Nat.zero_lt_succ _
  · rw [reduced_of_none rfl, WithinRounds]
    have hCounts := reductionCounts_within_group hTree rest us
    rw [List.nil_append] at hCounts
    rw [hCounts, List.forall_mem_append]
    refine ⟨hRounds, withinRounds_cons.mpr ?_⟩
    rw [reductions_of_reduces hGroup, reduced_of_reduces hGroup]
    exact ⟨hClose, hAfter⟩

/-! ## Accepted tokens -/

/-- The tokens stand for the expression, and the limit of rounds does not keep the parser from
finding it. -/
structure Accepts (ts : List Token) (e : Expr) : Prop where
  derives : Derives .or ts e
  rounds : WithinRounds [] ts

theorem accepts_of_parseTokens {ts : List Token} {e : Expr} (hne : ts ≠ [])
    (h : (parseTokens ts).result = .ok e) : Accepts ts e := by
  obtain ⟨hRounds, hTree⟩ := withinRounds_and_stackAfter_of_parseTokens hne h
  exact ⟨derives_of_stackAfter hTree, hRounds⟩

namespace Accepts

variable {ts us : List Token} {e l r : Expr}

theorem result_eq_ok (h : Accepts ts e) (hLength : ts.length ≤ maxTokens) :
    (parseTokens ts).result = .ok e := by
  rw [result_parseTokens_of_withinRounds h.derives.ne_nil hLength h.rounds]
  exact finish_eq_ok_iff.mpr (stackAfter_of_derives h.derives)

/-- A group whose closing parenthesis ends the tokens. -/
theorem withinRounds_last_group (h : Accepts ts e) {rest : Stack}
    (hClose : reductions none (.tree e :: rest) ≤ 1) :
    WithinRounds rest (.openParen :: (ts ++ [.closeParen])) := by
  refine withinRounds_group (stackAfter_of_derives h.derives) h.rounds ?_ fun _ hn => nomatch hn
  simp only [List.head?_nil, maxRounds]
  omega

theorem group (h : Accepts ts e) : Accepts (.openParen :: (ts ++ [.closeParen])) e where
  derives := (Derives.group h.derives).weaken (Nat.zero_le _)
  rounds := by
    refine h.withinRounds_last_group ?_
    rw [reductions_of_none rfl]
    exact Nat.zero_le 1

theorem not_group (h : Accepts ts e) :
    Accepts (.not :: .openParen :: (ts ++ [.closeParen])) (.apply .not [e]) where
  derives := by
    have hGroup : Derives .unary (.openParen :: (ts ++ [.closeParen])) e :=
      .ofPrimary (.group h.derives)
    exact (Derives.not hGroup).weaken (by decide)
  rounds := by
    refine withinRounds_cons.mpr ⟨?_, ?_⟩
    · rw [reductions_of_none rfl]
      exact Nat.zero_lt_succ _
    · rw [reduced_of_none rfl]
      refine h.withinRounds_last_group (Nat.le_of_eq ?_)
      rw [reductions_of_reduces (.not _ _), reductions_of_none rfl]

/-- Two groups with an operator between them that takes them for its operands. -/
theorem withinRounds_groups {t : Token} {tree : Expr} (hl : Accepts ts l) (hr : Accepts us r)
    (hFirst : reduce? (some t) [.tree l] = none)
    (hShift : reduce? (some .openParen) [.token t, .tree l] = none)
    (hLast : Reduces none [.tree r, .token t, .tree l] [.tree tree]) :
    WithinRounds [] (.openParen :: (ts ++ .closeParen :: t :: .openParen ::
      (us ++ [.closeParen]))) := by
  refine withinRounds_group (stackAfter_of_derives hl.derives) hl.rounds ?_ ?_
  · rw [List.head?_cons, reductions_of_none hFirst]
    exact Nat.succ_lt_succ (Nat.zero_lt_succ _)
  · rw [List.head?_cons, reduced_of_none hFirst, withinRounds_cons]
    rw [List.head?_cons, reductions_of_none hShift, reduced_of_none hShift]
    refine ⟨Nat.zero_lt_succ _, hr.withinRounds_last_group (Nat.le_of_eq ?_)⟩
    rw [reductions_of_reduces hLast, reductions_of_none rfl]

theorem and_groups (hl : Accepts ts l) (hr : Accepts us r) :
    Accepts (.openParen :: (ts ++ .closeParen :: .and :: .openParen :: (us ++ [.closeParen])))
      (.apply .and [l, r]) where
  derives := by
    have hLeft : Derives .and (.openParen :: (ts ++ [.closeParen])) l :=
      .ofUnary (.ofPrimary (.group hl.derives))
    have hRight : Derives .unary (.openParen :: (us ++ [.closeParen])) r :=
      .ofPrimary (.group hr.derives)
    have hAnd := Derives.ofAnd (.and hLeft hRight)
    simpa using hAnd
  rounds := hl.withinRounds_groups hr rfl rfl (.and _ _ _)

theorem or_groups (hl : Accepts ts l) (hr : Accepts us r) :
    Accepts (.openParen :: (ts ++ .closeParen :: .or :: .openParen :: (us ++ [.closeParen])))
      (.apply .or [l, r]) where
  derives := by
    have hLeft : Derives .or (.openParen :: (ts ++ [.closeParen])) l :=
      .ofAnd (.ofUnary (.ofPrimary (.group hl.derives)))
    have hRight : Derives .and (.openParen :: (us ++ [.closeParen])) r :=
      .ofUnary (.ofPrimary (.group hr.derives))
    have hOr := Derives.or hLeft hRight
    simpa using hOr
  rounds := hl.withinRounds_groups hr rfl rfl (.or _ _ _ rfl)

end Accepts

end LineSieve.Parser
