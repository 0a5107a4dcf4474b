import LineSieve.Proofs.Expr.Grammar
import LineSieve.Proofs.Expr.Unlimited

/-!
# What a stack of the parser stands for

Precedence is nowhere written down in the parser. It comes from an invariant of every stack, also of
those that malformed tokens lead to:

* each tree derives from its part of the tokens, at a level that its neighbours bound: the item
  below it (`NOT`, `AND` and `OR` leave less than `or` to their right operand) and the token after
  it (only a token that ends an `OR` may follow a tree of level `or`);
* when a token was shifted, no rule applied to the stack below it.

`Covers` is this invariant. `covers_of_reduces` says that reductions keep it, and
`covers_stackAfter` that whole runs do. From its second part it follows that few reductions can come
after one token (`reductions_token_le`): besides those of a run of `NOT`, at most three.
-/

namespace LineSieve.Parser

open Grammar

/-! ## The invariant -/

/-- The weakest level of a tree on this stack that is followed by `next`. -/
def ceiling (next : Option Token) : Stack → Level
  | .token .not :: _ => .unary
  | .token .and :: .tree _ :: _ => .unary
  | .token .or :: .tree _ :: _ => .and
  | _ => if endsOr next then .or else .and

/-- The items of the stack stand for consecutive parts of the tokens, which `next` follows. -/
inductive Covers : Option Token → Stack → List Token → Prop where
  | nil {next : Option Token} : Covers next [] []
  | token {next : Option Token} {t : Token} {stack : Stack} {ts : List Token}
      (h : Covers (some t) stack ts) (hSettled : reduce? (some t) stack = none) :
      Covers next (.token t :: stack) (ts ++ [t])
  | tree {next : Option Token} {e : Expr} {stack : Stack} {ts us : List Token}
      (h : Covers us.head? stack ts) (hTree : Derives (ceiling next stack) us e) :
      Covers next (.tree e :: stack) (ts ++ us)

variable {next : Option Token} {stack stack' : Stack} {ts : List Token}

theorem unary_le_ceiling (next : Option Token) (stack : Stack) :
    Level.unary.rank ≤ (ceiling next stack).rank := by
  unfold ceiling
  split
  · decide
  · decide
  · decide
  · split <;> decide

/-- Where no rule applies to a tree, an operand of `AND` may be put in its place. -/
theorem and_le_ceiling {t : Token} {e : Expr}
    (h : reduce? (some t) (.tree e :: stack) = none) (next : Option Token) :
    Level.and.rank ≤ (ceiling next stack).rank := by
  unfold ceiling
  split
  · simp [reduce?] at h
  · simp [reduce?] at h
  · decide
  · split <;> decide

/-- Where not even the rule for `OR` applies to a tree, it may be of any level. -/
theorem ceiling_of_settled_or {e : Expr} (h : reduce? (some .or) (.tree e :: stack) = none)
    (hNext : endsOr next = true) : ceiling next stack = .or := by
  unfold ceiling
  split
  · simp [reduce?] at h
  · simp [reduce?] at h
  · simp [reduce?, endsOr] at h
  · rw [if_pos hNext]

theorem ceiling_le_and (hNext : endsOr next = false) {us : List Token} {e : Expr}
    (h : Derives (ceiling next stack) us e) : Derives .and us e := by
  revert h
  unfold ceiling
  split
  · exact Derives.ofUnary
  · exact Derives.ofUnary
  · exact id
  · rw [hNext]
    exact id

/-! ## Reductions keep the invariant -/

theorem covers_of_reduces (hc : Covers next stack ts) (h : Reduces next stack stack') :
    Covers next stack' ts := by
  cases h with
  | word text rest =>
    cases hc with
    | token hc hSettled => exact .tree hc ((Derives.word text).weaken (Nat.zero_le _))
  | pattern text rest =>
    cases hc with
    | token hc hSettled => exact .tree hc ((Derives.pattern text).weaken (Nat.zero_le _))
  | not e rest =>
    cases hc with
    | tree hc he =>
      cases hc with
      | token hc hSettled =>
        rw [List.append_assoc]
        exact .tree hc ((Derives.not he).weaken (unary_le_ceiling _ _))
  | and l r rest =>
    cases hc with
    | tree hc hr =>
      cases hc with
      | token hc hSettled =>
        cases hc with
        | @tree _ _ _ ts us hc hl =>
          have hAnd := Derives.and (ceiling_le_and rfl hl) hr
          rw [List.append_assoc, List.append_assoc]
          refine .tree ?_ (hAnd.weaken (and_le_ceiling hSettled next))
          rwa [hl.head?_append]
  | or l r rest hNext =>
    cases hc with
    | tree hc hr =>
      cases hc with
      | token hc hSettled =>
        cases hc with
        | @tree _ _ _ ts us hc hl =>
          rw [ceiling_of_settled_or hSettled rfl] at hl
          have hOr := Derives.or hl hr
          rw [List.append_assoc, List.append_assoc]
          refine .tree ?_ ?_
          · rwa [hl.head?_append]
          · rw [ceiling_of_settled_or hSettled hNext]
            exact hOr
  | group e rest =>
    cases hc with
    | token hc _ =>
      cases hc with
      | tree hc he =>
        cases hc with
        | token hc _ =>
          rw [List.append_assoc, List.append_assoc]
          exact .tree hc ((Derives.group he).weaken (Nat.zero_le _))

theorem covers_reduced (h : Covers next stack ts) : Covers next (reduced next stack) ts :=
  reduced_induction h fun _ _ hc hStep => covers_of_reduces hc hStep

/-- Whole runs keep the invariant. -/
theorem covers_stackAfter {us : List Token} (h : Covers us.head? stack ts)
    (hSettled : reduce? us.head? stack = none) : Covers none (stackAfter stack us) (ts ++ us) := by
  induction us generalizing stack ts with
  | nil =>
    rw [List.append_nil]
    exact h
  | cons t us ih =>
    have hNext := ih (covers_reduced (.token h hSettled)) (reduce?_reduced _ _)
    rwa [List.append_assoc] at hNext

/-! ## Few reductions come after one token -/

/-- The number of `NOT` at the top of the stack. -/
def leadingNots : Stack → Nat
  | .token .not :: stack => leadingNots stack + 1
  | _ => 0

theorem replicate_leadingNots_suffix (h : Covers next stack ts) :
    List.replicate (leadingNots stack) Token.not <:+ ts := by
  induction h with
  | nil => exact List.nil_suffix
  | @token _ t stack ts _ _ ih =>
    cases t with
    | not =>
      rw [leadingNots, List.replicate_succ']
      obtain ⟨us, rfl⟩ := ih
      exact ⟨us, by simp⟩
    | _ => exact List.nil_suffix
  | tree => exact List.nil_suffix

/-- Where no rule applies to a tree before an `OR`, none applies to any tree. -/
theorem reduce?_tree_of_settled_or {e : Expr} (h : reduce? (some .or) (.tree e :: stack) = none)
    (next : Option Token) (e' : Expr) : reduce? next (.tree e' :: stack) = none := by
  cases hStep : reduce? next (.tree e' :: stack) with
  | none => rfl
  | some stack' =>
    cases reduces_of_reduce? hStep <;> simp [reduce?, endsOr] at h

/-- After the rule for `AND` at most that for `OR` applies. -/
theorem reductions_tree_le_one {e : Expr} (h : reduce? (some .and) (.tree e :: stack) = none)
    {next' : Option Token} (hc : Covers next' stack ts) (next : Option Token) (e' : Expr) :
    reductions next (.tree e' :: stack) ≤ 1 := by
  cases hStep : reduce? next (.tree e' :: stack) with
  | none =>
    rw [reductions_of_none hStep]
    exact Nat.zero_le 1
  | some stack' =>
    have hReduces := reduces_of_reduce? hStep
    rw [reductions_of_reduces hReduces]
    cases hReduces with
    | not => simp [reduce?] at h
    | and => simp [reduce?] at h
    | or l r rest hNext =>
      cases hc with
      | token hc hSettled =>
        exact Nat.le_of_eq (congrArg (· + 1)
          (reductions_of_none (reduce?_tree_of_settled_or hSettled _ _)))

theorem reductions_tree_le {next' : Option Token} (hc : Covers next' stack ts)
    (next : Option Token) (e : Expr) :
    reductions next (.tree e :: stack) ≤ leadingNots stack + 2 := by
  induction stack generalizing e next' ts with
  | nil =>
    rw [reductions_of_none rfl]
    exact Nat.zero_le _
  | cons item stack ih =>
    cases hStep : reduce? next (.tree e :: item :: stack) with
    | none =>
      rw [reductions_of_none hStep]
      exact Nat.zero_le _
    | some stack' =>
      have hReduces := reduces_of_reduce? hStep
      rw [reductions_of_reduces hReduces]
      cases hReduces with
      | not =>
        cases hc with
        | token hc hSettled =>
          have hRest := ih hc (.apply .not [e])
          rw [leadingNots]
          omega
      | and l r rest =>
        cases hc with
        | token hc hSettled =>
          cases hc with
          | tree hc hl =>
            have hRest := reductions_tree_le_one hSettled hc next (.apply .and [l, e])
            omega
      | or l r rest hNext =>
        cases hc with
        | token hc hSettled =>
          rw [reductions_of_none (reduce?_tree_of_settled_or hSettled _ _)]
          omega

/-- The stack on which the tree comes to lie that a shifted token completes: below a literal, or
below the group that a parenthesis closes. -/
def below (t : Token) (stack : Stack) : Stack :=
  match t, stack with
  | .closeParen, .tree _ :: .token .openParen :: rest => rest
  | _, stack => stack

theorem reductions_token_le {t : Token} (hc : Covers (some t) stack ts) (next : Option Token) :
    reductions next (.token t :: stack) ≤ leadingNots (below t stack) + 3 := by
  cases hStep : reduce? next (.token t :: stack) with
  | none =>
    rw [reductions_of_none hStep]
    exact Nat.zero_le _
  | some stack' =>
    have hReduces := reduces_of_reduce? hStep
    rw [reductions_of_reduces hReduces]
    cases hReduces with
    | word text =>
      exact Nat.succ_le_succ (reductions_tree_le hc next _)
    | pattern text =>
      exact Nat.succ_le_succ (reductions_tree_le hc next _)
    | group e rest =>
      cases hc with
      | tree hc he =>
        cases hc with
        | token hc hSettled => exact Nat.succ_le_succ (reductions_tree_le hc next _)

end LineSieve.Parser
