import LineSieve.Matcher.Engines
import LineSieve.Proofs.Matcher.Lowering

/-!
# Which expressions are built

The depth of an expression is computed from the literals up, while a build counts levels from the
root down and stops at the first failure. They agree, also about operators without operands:

* `buildAt_eq_ok_iff`: a build from a level succeeds exactly if that level and the depth together
  stay within the limit and the patterns are compiled, and then it makes the matcher of the same
  shape.
* `exists_lowers_iff`: there is such a matcher exactly if the engine accepts every pattern.
* `failure_of_buildAt`: a build fails at a pattern that the engine refuses, or one level beyond the
  limit.
* `build_succeeds_exactly`: what this means for expressions and for texts.
-/

namespace LineSieve

/-- Relations that agree about every first component relate the same rows. -/
theorem forall₂_congr_of_mem {α β : Type} {R S : α → β → Prop} {as : List α} {bs : List β}
    (h : ∀ a ∈ as, ∀ b, R a b ↔ S a b) : List.Forall₂ R as bs ↔ List.Forall₂ S as bs := by
  induction as generalizing bs with
  | nil => simp
  | cons a as ih =>
    obtain ⟨hHead, hTail⟩ := List.forall_mem_cons.mp h
    simp only [List.forall₂_cons_left_iff, hHead, ih hTail]

/-- A row is related to some row if each component is related to something. -/
theorem exists_forall₂_iff {α β : Type} {R : α → β → Prop} {as : List α} :
    (∃ bs, List.Forall₂ R as bs) ↔ ∀ a ∈ as, ∃ b, R a b := by
  induction as with
  | nil => simp
  | cons a as ih =>
    rw [List.forall_mem_cons, ← ih]
    simp only [List.forall₂_cons_left_iff]
    grind

/-! ## Patterns and depth -/

namespace Expr

mutual

/-- The texts of the patterns in the expression, from left to right. -/
def patterns : Expr → List String
  | word _ => []
  | pattern text => [text]
  | apply _ es => patternsBelow es

/-- The texts of the patterns in operands. -/
def patternsBelow : List Expr → List String
  | [] => []
  | e :: es => e.patterns ++ patternsBelow es

end

theorem mem_patternsBelow {text : String} {es : List Expr} :
    text ∈ patternsBelow es ↔ ∃ e ∈ es, text ∈ e.patterns := by
  induction es with
  | nil => simp [patternsBelow]
  | cons e es ih => rw [patternsBelow, List.mem_append, ih, List.exists_mem_cons_iff]

theorem mem_patterns_apply {op : Operator} {text : String} {es : List Expr} :
    text ∈ (apply op es).patterns ↔ ∃ e ∈ es, text ∈ e.patterns := by
  rw [patterns, mem_patternsBelow]

theorem depthBelow_le_iff {es : List Expr} {n : Nat} :
    depthBelow es ≤ n ↔ ∀ e ∈ es, e.depth + 1 ≤ n := by
  induction es with
  | nil => simp [depthBelow]
  | cons e es ih => rw [depthBelow, Nat.max_le, ih, List.forall_mem_cons]

/-- Operands stand one level below their operator. Where there are none, only the level of the
operator counts. -/
theorem level_add_depth_apply_le_iff {op : Operator} {es : List Expr} {level n : Nat} :
    level + (apply op es).depth ≤ n ↔ level ≤ n ∧ ∀ e ∈ es, level + 1 + e.depth ≤ n := by
  rw [depth]
  constructor
  · intro h
    have hBelow := depthBelow_le_iff.mp (Nat.le_sub_of_add_le' h)
    refine ⟨by omega, fun e he => ?_⟩
    have hDepth := hBelow e he
    omega
  · rintro ⟨hLevel, hBelow⟩
    have hDepth : depthBelow es ≤ n - level := by
      refine depthBelow_le_iff.mpr fun e he => ?_
      have hOperand := hBelow e he
      omega
    omega

end Expr

namespace Compiler

variable {P : Type} {engine : Engine P} {maxDepth : Nat}

/-! ## Builds that succeed -/

theorem buildEach_eq_ok_iff {level : Nat} {es : List Expr} {ms : List (Matcher P)} :
    (buildEach engine maxDepth level es).result = .ok ms ↔
      List.Forall₂ (fun e m => (buildAt engine maxDepth level e).result = .ok m) es ms := by
  refine ⟨forall₂_of_buildEach, fun h => ?_⟩
  induction h with
  | nil => rfl
  | cons hHead _ ih => simp [buildEach, Building.andThen, Building.map, hHead, ih, Except.map]

theorem buildAt_apply_eq_ok_iff {level : Nat} {op : Operator} {es : List Expr} {m : Matcher P} :
    (buildAt engine maxDepth level (.apply op es)).result = .ok m ↔
      level ≤ maxDepth ∧ ∃ ms, m = .apply op ms ∧
        List.Forall₂ (fun e m => (buildAt engine maxDepth (level + 1) e).result = .ok m) es ms := by
  rw [buildAt]
  split
  · rename_i hLevel
    constructor
    · intro h
      cases h
    · rintro ⟨hLe, -⟩
      exact absurd hLe (Nat.not_le.mpr hLevel)
  · rename_i hLevel
    constructor
    · intro h
      obtain ⟨ms, hEach, rfl⟩ := result_map_eq_ok h
      exact ⟨Nat.not_lt.mp hLevel, ms, rfl, forall₂_of_buildEach hEach⟩
    · rintro ⟨-, ms, rfl, hEach⟩
      simp [Building.map, buildEach_eq_ok_iff.mpr hEach, Except.map]

theorem lowers_apply_iff {op : Operator} {es : List Expr} {m : Matcher P} :
    Lowers engine (.apply op es) m ↔
      ∃ ms, m = .apply op ms ∧ List.Forall₂ (Lowers engine) es ms := by
  constructor
  · intro h
    cases h with
    | apply _ hOperands => exact ⟨_, rfl, hOperands⟩
  · rintro ⟨ms, rfl, hOperands⟩
    exact .apply op hOperands

/-- A build that starts at a level needs as many levels more as the expression is deep. -/
theorem buildAt_eq_ok_iff {level : Nat} {e : Expr} {m : Matcher P} :
    (buildAt engine maxDepth level e).result = .ok m ↔
      level + e.depth ≤ maxDepth ∧ Lowers engine e m := by
  induction e using Expr.induction generalizing level m with
  | word text =>
    constructor
    · intro h
      exact ⟨level_le_of_buildAt h, lowers_of_buildAt h⟩
    · rintro ⟨hLevel, hLowers⟩
      cases hLowers
      have hReached : ¬ maxDepth < level := Nat.not_lt.mpr hLevel
      rw [buildAt, if_neg hReached]
      rfl
  | pattern text =>
    constructor
    · intro h
      exact ⟨level_le_of_buildAt h, lowers_of_buildAt h⟩
    · rintro ⟨hLevel, hLowers⟩
      cases hLowers with
      | pattern hCompile =>
        have hReached : ¬ maxDepth < level := Nat.not_lt.mpr hLevel
        rw [buildAt, if_neg hReached]
        simp only [callEngine, hCompile]
  | apply op es ih =>
    have hOperands (ms : List (Matcher P)) :
        List.Forall₂ (fun e m => (buildAt engine maxDepth (level + 1) e).result = .ok m) es ms ↔
          (∀ e ∈ es, level + 1 + e.depth ≤ maxDepth) ∧ List.Forall₂ (Lowers engine) es ms := by
      rw [← List.forall₂_and_left]
      exact forall₂_congr_of_mem fun e he m => ih e he
    simp only [buildAt_apply_eq_ok_iff, hOperands, Expr.level_add_depth_apply_le_iff,
      lowers_apply_iff]
    grind

/-- The matcher of the same shape exists exactly if the engine accepts every pattern. -/
theorem exists_lowers_iff {e : Expr} :
    (∃ m, Lowers engine e m) ↔ ∀ r ∈ e.patterns, ∃ p, engine.compile r = .ok p := by
  induction e using Expr.induction with
  | word text =>
    constructor
    · intro _ r hr
      cases hr
    · intro _
      exact ⟨_, .word text⟩
  | pattern text =>
    rw [Expr.patterns, List.forall_mem_singleton]
    constructor
    · rintro ⟨m, h⟩
      cases h with
      | pattern hCompile => exact ⟨_, hCompile⟩
    · rintro ⟨p, hCompile⟩
      exact ⟨_, .pattern hCompile⟩
  | apply op es ih =>
    calc (∃ m, Lowers engine (.apply op es) m)
      _ ↔ ∃ ms, List.Forall₂ (Lowers engine) es ms := by simp [lowers_apply_iff]
      _ ↔ ∀ e ∈ es, ∃ m, Lowers engine e m := exists_forall₂_iff
      _ ↔ ∀ e ∈ es, ∀ r ∈ e.patterns, ∃ p, engine.compile r = .ok p :=
        forall₂_congr fun e he => ih e he
      _ ↔ ∀ r ∈ (Expr.apply op es).patterns, ∃ p, engine.compile r = .ok p := by
        simp only [Expr.mem_patterns_apply, forall_exists_index, and_imp]
        exact ⟨fun h r e he hr => h e he r hr, fun h e he r hr => h r e he hr⟩

/-! ## Builds that fail -/

theorem result_map_eq_error {α β : Type} {b : Building α} {f : α → β} {failure : Failure} :
    (b.map f).result = .error failure ↔ b.result = .error failure := by
  cases h : b.result <;> simp [Building.map, h, Except.map]

/-- Operands fail if one of them fails. -/
theorem exists_of_buildEach_eq_error {level : Nat} {es : List Expr} {failure : Failure}
    (h : (buildEach engine maxDepth level es).result = .error failure) :
    ∃ e ∈ es, (buildAt engine maxDepth level e).result = .error failure := by
  induction es with
  | nil => cases h
  | cons e es ih =>
    cases hHead : (buildAt engine maxDepth level e).result with
    | error failure' =>
      simp only [buildEach, Building.andThen, hHead] at h
      cases h
      exact ⟨e, List.mem_cons_self, hHead⟩
    | ok m =>
      simp only [buildEach, Building.andThen, hHead, result_map_eq_error] at h
      obtain ⟨e', he', hFails⟩ := ih h
      exact ⟨e', List.mem_cons_of_mem _ he', hFails⟩

/-- The failure is that of a pattern of the expression which the engine refuses. -/
def Refused (engine : Engine P) (e : Expr) (failure : Failure) : Prop :=
  ∃ r ∈ e.patterns, ∃ reason, engine.compile r = .error reason ∧ failure = .pattern r reason

theorem tooDeep_of_buildAt {level : Nat} {e : Expr} {failure : Failure}
    (hBeyond : maxDepth < level) (hLevel : level ≤ maxDepth + 1)
    (h : (buildAt engine maxDepth level e).result = .error failure) :
    failure = .tooDeep (maxDepth + 1) ∧ maxDepth < level + e.depth := by
  rw [buildAt.eq_def, if_pos hBeyond] at h
  cases h
  have hEq : level = maxDepth + 1 := by omega
  exact ⟨congrArg Failure.tooDeep hEq, by omega⟩

/-- Levels are counted one by one, so that only the first beyond the limit is ever reported. -/
theorem failure_of_buildAt {level : Nat} {e : Expr} {failure : Failure}
    (hLevel : level ≤ maxDepth + 1)
    (h : (buildAt engine maxDepth level e).result = .error failure) :
    Refused engine e failure ∨
      (failure = .tooDeep (maxDepth + 1) ∧ maxDepth < level + e.depth) := by
  induction e using Expr.induction generalizing level with
  | word text =>
    by_cases hBeyond : maxDepth < level
    · exact Or.inr (tooDeep_of_buildAt hBeyond hLevel h)
    · rw [buildAt, if_neg hBeyond] at h
      cases h
  | pattern text =>
    by_cases hBeyond : maxDepth < level
    · exact Or.inr (tooDeep_of_buildAt hBeyond hLevel h)
    · rw [buildAt, if_neg hBeyond] at h
      dsimp only [callEngine] at h
      split at h
      · cases h
      · rename_i reason hRefused
        cases h
        exact Or.inl ⟨text, List.mem_singleton_self text, reason, hRefused, rfl⟩
  | apply op es ih =>
    by_cases hBeyond : maxDepth < level
    · exact Or.inr (tooDeep_of_buildAt hBeyond hLevel h)
    · rw [buildAt, if_neg hBeyond, result_map_eq_error] at h
      obtain ⟨e, he, hOperand⟩ := exists_of_buildEach_eq_error h
      rcases ih e he (by omega) hOperand with ⟨r, hr, hRefused⟩ | ⟨rfl, hDepth⟩
      · exact Or.inl ⟨r, Expr.mem_patterns_apply.mpr ⟨e, he, hr⟩, hRefused⟩
      · refine Or.inr ⟨rfl, Nat.lt_of_not_le fun hLe => ?_⟩
        have hBelow := (Expr.level_add_depth_apply_le_iff.mp hLe).2 e he
        omega

/-! ## Builds for every limit -/

/-- What builds of the expression come to, one for every limit: success and failure are decided by
its depth and its patterns, and a higher limit changes nothing about a success. -/
structure BuiltByParts (engine : Engine P) (e : Expr)
    (build : Nat → Except Failure (Matcher P)) : Prop where
  succeeds_iff : ∀ maxDepth, (∃ m, build maxDepth = .ok m) ↔
    e.depth ≤ maxDepth ∧ ∀ r ∈ e.patterns, ∃ p, engine.compile r = .ok p
  failure : ∀ maxDepth failure, build maxDepth = .error failure →
    Refused engine e failure ∨ (failure = .tooDeep (maxDepth + 1) ∧ maxDepth < e.depth)
  raise : ∀ maxDepth maxDepth' m, maxDepth ≤ maxDepth' → build maxDepth = .ok m →
    build maxDepth' = .ok m

theorem build_eq_ok_iff {e : Expr} {m : Matcher P} :
    (build engine maxDepth e).result = .ok m ↔ e.depth ≤ maxDepth ∧ Lowers engine e m := by
  rw [build, buildAt_eq_ok_iff, Nat.zero_add]

theorem builtByParts_build (engine : Engine P) (e : Expr) :
    BuiltByParts engine e fun maxDepth => (build engine maxDepth e).result where
  succeeds_iff maxDepth := by simp only [build_eq_ok_iff, exists_and_left, exists_lowers_iff]
  failure maxDepth failure h := by
    rcases failure_of_buildAt (Nat.zero_le _) h with hRefused | ⟨hTooDeep, hDepth⟩
    · exact Or.inl hRefused
    · exact Or.inr ⟨hTooDeep, by omega⟩
  raise maxDepth maxDepth' m hLe h := by
    obtain ⟨hDepth, hLowers⟩ := build_eq_ok_iff.mp h
    exact build_eq_ok_iff.mpr ⟨Nat.le_trans hDepth hLe, hLowers⟩

/-! ## Texts -/

theorem parse_eq_error_cases {text : String} {failure : Failure}
    (h : Expr.parse text = .error failure) :
    (∃ error, failure = .lexical error) ∨ ∃ error, failure = .parse error := by
  unfold Expr.parse Expr.read at h
  split at h
  · cases h
    exact Or.inl ⟨_, rfl⟩
  · rename_i ts _
    cases hRun : (Parser.parseTokens ts).result with
    | error error =>
      simp only [hRun, Except.mapError] at h
      cases h
      exact Or.inr ⟨error, rfl⟩
    | ok e => simp [hRun, Except.mapError] at h

theorem result_compile_of_error {text : String} {failure : Failure}
    (h : Expr.parse text = .error failure) :
    (compile engine maxDepth text).result = .error failure := by
  unfold Expr.parse at h
  unfold compile
  dsimp only
  rw [h]
  rfl

/-- Building never fails in the words of a lexer or a parser. -/
theorem compile_eq_error_iff {text : String} {failure : Failure}
    (hText : (∃ error, failure = .lexical error) ∨ ∃ error, failure = .parse error) :
    (compile engine maxDepth text).result = .error failure ↔ Expr.parse text = .error failure := by
  refine ⟨fun h => ?_, result_compile_of_error⟩
  cases hParse : Expr.parse text with
  | error failure' =>
    rw [result_compile_of_error hParse] at h
    cases h
    rfl
  | ok e =>
    rw [result_compile hParse] at h
    rcases (builtByParts_build engine e).failure _ _ h with ⟨_, _, _, _, rfl⟩ | ⟨rfl, -⟩
    · rcases hText with ⟨_, h⟩ | ⟨_, h⟩ <;> cases h
    · rcases hText with ⟨_, h⟩ | ⟨_, h⟩ <;> cases h

theorem map_explain_eq_error_iff {text : String} {failure : Failure} :
    (Expr.parse text).map Expr.explain = .error failure ↔ Expr.parse text = .error failure := by
  cases Expr.parse text <;> simp [Except.map]

/-- A build succeeds exactly if the expression is no deeper than the limit and the engine accepts
its patterns, and otherwise fails for one of these reasons. The same holds of a text that has an
expression; any other text fails to be compiled just as it fails to be explained. -/
theorem build_succeeds_exactly (engine : Engine P) :
    (∀ e, BuiltByParts engine e fun maxDepth => (build engine maxDepth e).result) ∧
    ∀ text,
      (∀ maxDepth error, (compile engine maxDepth text).result = .error (.lexical error) ↔
        (Expr.parse text).map Expr.explain = .error (.lexical error)) ∧
      (∀ maxDepth error, (compile engine maxDepth text).result = .error (.parse error) ↔
        (Expr.parse text).map Expr.explain = .error (.parse error)) ∧
      ((∃ error, (Expr.parse text).map Expr.explain = .error (.lexical error)) ∨
        (∃ error, (Expr.parse text).map Expr.explain = .error (.parse error)) ∨
        ∃ e, Expr.parse text = .ok e ∧
          BuiltByParts engine e fun maxDepth => (compile engine maxDepth text).result) := by
  refine ⟨builtByParts_build engine, fun text => ⟨?_, ?_, ?_⟩⟩
  · intro maxDepth error
    rw [map_explain_eq_error_iff]
    exact compile_eq_error_iff (Or.inl ⟨error, rfl⟩)
  · intro maxDepth error
    rw [map_explain_eq_error_iff]
    exact compile_eq_error_iff (Or.inr ⟨error, rfl⟩)
  · cases hParse : Expr.parse text with
    | error failure =>
      rcases parse_eq_error_cases hParse with ⟨error, rfl⟩ | ⟨error, rfl⟩
      · exact Or.inl ⟨error, rfl⟩
      · exact Or.inr (Or.inl ⟨error, rfl⟩)
    | ok e =>
      refine Or.inr (Or.inr ⟨e, rfl, ?_⟩)
      simp only [result_compile hParse]
      exact builtByParts_build engine e

/-- An operator without operands may stand at the limit, where its operands could not. -/
example : (build Engine.occurrences 1 (.apply .not [.apply .or []])).result =
      .ok (.apply .not [.apply .or []]) ∧
    (build Engine.occurrences 1 (.apply .not [.apply .or [.pattern "!"]])).result =
      .error (.tooDeep 2) := ⟨rfl, rfl⟩

end Compiler

end LineSieve
