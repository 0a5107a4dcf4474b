import LineSieve.Proofs.Expr.StackInvariant
import Mathlib.Data.List.TakeWhile

/-!
# The operand that a token completes

A literal is an operand of its own, and a closing parenthesis completes the one that its group is.
How many reductions can come after the token depends on the tokens `NOT` right before this operand,
and on nothing else.

* `operandNots`: the number of these tokens `NOT`, found in the tokens alone.
* `replicate_operandNots_isInfix`: they are a run of that length.
* `reductions_le_operandNots`: on a stack that stands for the tokens before, at most three
  reductions come on top of that number.
-/

namespace LineSieve.Parser

open Grammar

/-! ## The operand that a token completes -/

/-- How many tokens `NOT` come first. -/
def nots (before : List Token) : Nat := (before.takeWhile (· = .not)).length

/-- What stands before the innermost group that is open after some tokens, or before the one that is
open when `inner` more groups are closed. Tokens are read, and given, last first. -/
def beforeGroup? : (inner : Nat) → List Token → Option (List Token)
  | _, [] => none
  | 0, .openParen :: before => some before
  | inner + 1, .openParen :: before => beforeGroup? inner before
  | inner, .closeParen :: before => beforeGroup? (inner + 1) before
  | inner, _ :: before => beforeGroup? inner before

/-- How many tokens `NOT` stand right before the operand that `t` completes after the tokens `ts`.
That is the group which `t` closes, if there is one, or else `t` itself. -/
def operandNots (ts : List Token) : Token → Nat
  | .closeParen => nots ((beforeGroup? 0 ts.reverse).getD [])
  | _ => nots ts.reverse

theorem le_nots_of_suffix {n : Nat} {ts : List Token} (h : List.replicate n Token.not <:+ ts) :
    n ≤ nots ts.reverse := by
  obtain ⟨us, rfl⟩ := h
  have hNots : ∀ t ∈ List.replicate n Token.not, decide (t = .not) = true := by
    intro t ht
    rw [List.eq_of_mem_replicate ht]
    decide
  rw [nots, List.reverse_append, List.reverse_replicate, List.takeWhile_append_of_pos hNots,
    List.length_append, List.length_replicate]
  exact Nat.le_add_right _ _

theorem replicate_nots_isPrefix (before : List Token) :
    List.replicate (nots before) Token.not <+: before := by
  have hNots : before.takeWhile (· = .not) = List.replicate (nots before) .not := by
    refine List.eq_replicate_iff.mpr ⟨rfl, fun t ht => ?_⟩
    have hNot := List.mem_takeWhile_imp (p := fun t : Token => decide (t = .not)) ht
    exact of_decide_eq_true hNot
  rw [← hNots]
  exact List.takeWhile_prefix _

theorem suffix_of_beforeGroup? {inner : Nat} {ts before : List Token}
    (h : beforeGroup? inner ts = some before) : before <:+ ts := by
  fun_induction beforeGroup? inner ts with
  | case1 => cases h
  | case2 =>
    cases h
    exact List.suffix_cons _ _
  | case3 _ _ ih | case4 _ _ ih | case5 _ _ _ _ _ _ ih =>
    exact (ih h).trans (List.suffix_cons _ _)

/-- What derives closes all groups that it opens. -/
theorem beforeGroup?_of_derives {level : Level} {ts : List Token} {e : Expr}
    (h : Derives level ts e) (inner : Nat) (before : List Token) :
    beforeGroup? inner (ts.reverse ++ before) = beforeGroup? inner before := by
  induction h generalizing inner before with
  | word | pattern => simp [beforeGroup?]
  | group _ ih => simp [beforeGroup?, ih]
  | not _ ih => simp [beforeGroup?, ih]
  | ofPrimary _ ih | ofUnary _ ih | ofAnd _ ih => exact ih inner before
  | and _ _ ihl ihr | or _ _ ihl ihr => simp [beforeGroup?, ihl, ihr]

theorem operandNots_group {level : Level} {us : List Token} {e : Expr} (h : Derives level us e)
    (ts : List Token) : operandNots (ts ++ [.openParen] ++ us) .closeParen = nots ts.reverse := by
  rw [operandNots, List.reverse_append, beforeGroup?_of_derives h, List.reverse_append]
  rfl

theorem replicate_operandNots_isInfix (ts : List Token) (t : Token) :
    List.replicate (operandNots ts t) Token.not <:+: ts := by
  suffices h : List.replicate (operandNots ts t) Token.not <:+: ts.reverse by
    rwa [← List.reverse_infix, List.reverse_reverse, List.reverse_replicate] at h
  unfold operandNots
  split
  · cases hGroup : beforeGroup? 0 ts.reverse with
    | none => exact List.nil_infix
    | some before =>
      have hPrefix := replicate_nots_isPrefix before
      exact hPrefix.isInfix.trans (suffix_of_beforeGroup? hGroup).isInfix
  · exact (replicate_nots_isPrefix _).isInfix

/-! ## Reductions after one token -/

variable {ts : List Token} {t : Token} {stack : Stack}

theorem reductions_eq_zero (h : t ∈ [Token.not, .and, .or, .openParen]) (next : Option Token)
    (stack : Stack) : reductions next (.token t :: stack) = 0 := by
  simp only [List.mem_cons, List.not_mem_nil, or_false] at h
  rcases h with rfl | rfl | rfl | rfl <;> exact reductions_of_none rfl

theorem leadingNots_le_nots {next : Option Token} (hc : Covers next stack ts) :
    leadingNots stack ≤ nots ts.reverse := le_nots_of_suffix (replicate_leadingNots_suffix hc)

/-- At most three reductions follow a token besides those of the tokens `NOT` before its operand. -/
theorem reductions_le_operandNots (hc : Covers (some t) stack ts) (next : Option Token) :
    reductions next (.token t :: stack) ≤ operandNots ts t + 3 := by
  have hFew := reductions_token_le hc next
  cases t with
  | closeParen =>
    -- the bound on the stack is that of the tokens only if there is a group to close
    cases hStep : reduce? next (.token .closeParen :: stack) with
    | none =>
      rw [reductions_of_none hStep]
      exact Nat.zero_le _
    | some stack' =>
      cases reduces_of_reduce? hStep with
      | group e rest =>
        cases hc with
        | tree hc he =>
          cases hc with
          | token hc _ =>
            rw [operandNots_group he]
            exact Nat.le_trans hFew (Nat.add_le_add_right (leadingNots_le_nots hc) 3)
  | _ => exact Nat.le_trans hFew (Nat.add_le_add_right (leadingNots_le_nots hc) 3)

end LineSieve.Parser
