import LineSieve.Matcher.Compiler
import Mathlib.Data.List.Forall2

/-!
# What a build makes of an expression

`Lowers` relates an expression to the matcher of the same shape, in which every pattern is what the
engine makes of its text. It knows neither levels nor limits. `lowers_of_build` says that a build
that succeeds has made this matcher, whatever the limit was.
-/

namespace LineSieve.Compiler

variable {P : Type}

/-- The matcher is the expression with its patterns compiled. -/
inductive Lowers (engine : Engine P) : Expr → Matcher P → Prop where
  | word (text : String) : Lowers engine (.word text) (.substring text)
  | pattern {text : String} {p : P} (h : engine.compile text = .ok p) :
      Lowers engine (.pattern text) (.pattern p)
  | apply (op : Operator) {es : List Expr} {ms : List (Matcher P)}
      (h : List.Forall₂ (Lowers engine) es ms) : Lowers engine (.apply op es) (.apply op ms)

variable {engine : Engine P} {maxDepth : Nat}

/-! ## Builds that succeed -/

theorem result_map_eq_ok {α β : Type} {b : Building α} {f : α → β} {y : β}
    (h : (b.map f).result = .ok y) : ∃ x, b.result = .ok x ∧ f x = y := by
  unfold Building.map at h
  cases hb : b.result with
  | error failure =>
    rw [hb] at h
    cases h
  | ok x =>
    rw [hb] at h
    cases h
    exact ⟨x, rfl, rfl⟩

theorem result_andThen_eq_ok {α β : Type} {b : Building α} {f : α → Building β} {y : β}
    (h : (b.andThen f).result = .ok y) : ∃ x, b.result = .ok x ∧ (f x).result = .ok y := by
  unfold Building.andThen at h
  cases hb : b.result with
  | error failure =>
    rw [hb] at h
    cases h
  | ok x =>
    rw [hb] at h
    exact ⟨x, rfl, h⟩

/-- Operands are built one by one at their level. -/
theorem forall₂_of_buildEach {level : Nat} {es : List Expr} {ms : List (Matcher P)}
    (h : (buildEach engine maxDepth level es).result = .ok ms) :
    List.Forall₂ (fun e m => (buildAt engine maxDepth level e).result = .ok m) es ms := by
  induction es generalizing ms with
  | nil =>
    rw [buildEach] at h
    cases h
    exact .nil
  | cons e es ih =>
    rw [buildEach] at h
    obtain ⟨m, hHead, hRest⟩ := result_andThen_eq_ok h
    obtain ⟨ms, hTail, rfl⟩ := result_map_eq_ok hRest
    exact .cons hHead (ih hTail)

theorem level_le_of_buildAt {level : Nat} {e : Expr} {m : Matcher P}
    (h : (buildAt engine maxDepth level e).result = .ok m) : level ≤ maxDepth := by
  rw [buildAt.eq_def] at h
  split at h
  · cases h
  · omega

theorem lowers_of_buildAt {level : Nat} {e : Expr} {m : Matcher P}
    (h : (buildAt engine maxDepth level e).result = .ok m) : Lowers engine e m := by
  induction e using Expr.induction generalizing level m with
  | word text =>
    have hLevel := Nat.not_lt.mpr (level_le_of_buildAt h)
    rw [buildAt, if_neg hLevel] at h
    cases h
    exact .word text
  | pattern text =>
    have hLevel := Nat.not_lt.mpr (level_le_of_buildAt h)
    rw [buildAt, if_neg hLevel] at h
    dsimp only [callEngine] at h
    split at h
    · rename_i p hCompile
      cases h
      exact .pattern hCompile
    · cases h
  | apply op es ih =>
    have hLevel := Nat.not_lt.mpr (level_le_of_buildAt h)
    rw [buildAt, if_neg hLevel] at h
    obtain ⟨ms, hEach, rfl⟩ := result_map_eq_ok h
    have hOperands := (List.forall₂_and_left es ms).mpr
      ⟨fun e he m => @ih e he (level + 1) m, forall₂_of_buildEach hEach⟩
    exact .apply op (hOperands.imp fun _ m h => h.1 m h.2)

theorem lowers_of_build {e : Expr} {m : Matcher P}
    (h : (build engine maxDepth e).result = .ok m) : Lowers engine e m := lowers_of_buildAt h

/-- To compile a text is to parse it and to build a matcher for its expression. -/
theorem result_compile {text : String} {e : Expr} (h : Expr.parse text = .ok e) :
    (compile engine maxDepth text).result = (build engine maxDepth e).result := by
  unfold Expr.parse at h
  unfold compile
  dsimp only
  rw [h]
  rfl

theorem exists_of_compile {text : String} {m : Matcher P}
    (h : (compile engine maxDepth text).result = .ok m) :
    ∃ e, Expr.parse text = .ok e ∧ (build engine maxDepth e).result = .ok m := by
  unfold compile at h
  dsimp only at h
  split at h
  · cases h
  · rename_i e hParse
    exact ⟨e, hParse, h⟩

end LineSieve.Compiler
