import LineSieve.Matcher.Engines
import LineSieve.Matcher.Compiler

/-!
# Where a build stops

A build visits the nodes of an expression from the root down and from left to right. It cannot get
past a node one level beyond the limit, nor past a pattern within the limit that the engine
refuses.

* `Expr.nodes`: the nodes in this order, with their levels.
* `Stops`: a build cannot get past the node, with the pattern compiled there and the failure.
* `Visits`: what comes of nodes that are visited in order, as a relation that knows no tree.
* `visits_build`: a build does to an expression what visiting its nodes does.
* `build_stops_at_first`: a build fails at the first node that it cannot get past, having compiled
  the patterns before it, and succeeds if there is none.
-/

namespace LineSieve

/-! ## Nodes -/

namespace Expr

/-- A node of an expression: what stands there, and its level. -/
structure Node where
  level : Nat
  expr : Expr

/-- The text of a node that is a pattern. -/
def Node.pattern? (n : Node) : Option String :=
  match n.expr with
  | .pattern text => some text
  | _ => none

/-- The patterns among nodes, in order. -/
def patternsAmong (ns : List Node) : List String := ns.filterMap Node.pattern?

theorem patternsAmong_cons (n : Node) (ns : List Node) :
    patternsAmong (n :: ns) = n.pattern?.toList ++ patternsAmong ns := by
  rw [patternsAmong, List.filterMap_cons]
  cases n.pattern? <;> rfl

mutual

/-- The nodes of an expression at a level, each before its operands. -/
def nodesAt (level : Nat) : Expr → List Node
  | word text => [⟨level, word text⟩]
  | pattern text => [⟨level, pattern text⟩]
  | apply op es => ⟨level, apply op es⟩ :: nodesBelow (level + 1) es

/-- The nodes of operands at a level, from left to right. -/
def nodesBelow (level : Nat) : List Expr → List Node
  | [] => []
  | e :: es => e.nodesAt level ++ nodesBelow level es

end

def nodes (e : Expr) : List Node := e.nodesAt 0

/-- An expression is the first of its nodes. -/
theorem exists_nodesAt_eq_cons (level : Nat) (e : Expr) :
    ∃ ns, e.nodesAt level = ⟨level, e⟩ :: ns := by
  cases e with
  | word | pattern => exact ⟨[], rfl⟩
  | apply op es => exact ⟨nodesBelow (level + 1) es, rfl⟩

end Expr

/-! ## Builds one after another -/

namespace Building

variable {α β γ : Type}

theorem andThen_assoc (b : Building α) (f : α → Building β) (g : β → Building γ) :
    (b.andThen f).andThen g = b.andThen fun a => (f a).andThen g := by
  obtain ⟨calls, result⟩ := b
  cases result with
  | error failure => rfl
  | ok a =>
    simp only [andThen]
    cases (f a).result with
    | error failure => rfl
    | ok x => simp only [List.append_assoc]

theorem map_andThen (b : Building α) (f : α → β) (g : β → Building γ) :
    (b.map f).andThen g = b.andThen fun a => g (f a) := by
  obtain ⟨calls, result⟩ := b
  cases result <;> rfl

theorem eq_error_of_andThen_done {b : Building α} {calls : List String} {failure : Failure}
    (h : (b.andThen fun _ => done ()) = ⟨calls, .error failure⟩) : b = ⟨calls, .error failure⟩ := by
  obtain ⟨calls', result⟩ := b
  cases result with
  | error failure' =>
    cases h
    rfl
  | ok a => cases h

theorem exists_of_andThen_done {b : Building α} {calls : List String}
    (h : (b.andThen fun _ => done ()) = ⟨calls, .ok ()⟩) : ∃ a, b = ⟨calls, .ok a⟩ := by
  obtain ⟨calls', result⟩ := b
  cases result with
  | error failure => cases h
  | ok a =>
    simp only [andThen, done, List.append_nil] at h
    cases h
    exact ⟨a, rfl⟩

end Building

namespace Compiler

open LineSieve.Expr

variable {P : Type} {engine : Engine P} {maxDepth : Nat}

/-! ## Visiting nodes -/

/-- A build does not get past the node. It has the engine compile these patterns there and fails
for this reason. What stands one level beyond the limit is not looked at. -/
inductive Stops (engine : Engine P) (maxDepth : Nat) :
    Node → List String → Failure → Prop where
  | tooDeep (e : Expr) : Stops engine maxDepth ⟨maxDepth + 1, e⟩ [] (.tooDeep (maxDepth + 1))
  | refused {level : Nat} {text reason : String} (hLevel : level ≤ maxDepth)
      (h : engine.compile text = .error reason) :
      Stops engine maxDepth ⟨level, .pattern text⟩ [text] (.pattern text reason)

/-- A build gets past the node. -/
def Passes (engine : Engine P) (maxDepth : Nat) (n : Node) : Prop :=
  ∀ calls failure, ¬ Stops engine maxDepth n calls failure

/-- The outcome of visiting the nodes one after the other. -/
inductive Visits (engine : Engine P) (maxDepth : Nat) : List Node → Building Unit → Prop where
  | nil : Visits engine maxDepth [] (.done ())
  | stop {n : Node} {calls : List String} {failure : Failure}
      (h : Stops engine maxDepth n calls failure) (ns : List Node) :
      Visits engine maxDepth (n :: ns) ⟨calls, .error failure⟩
  | pass {n : Node} {ns : List Node} {b : Building Unit} (h : Passes engine maxDepth n)
      (hRest : Visits engine maxDepth ns b) :
      Visits engine maxDepth (n :: ns) ⟨n.pattern?.toList ++ b.calls, b.result⟩

theorem Stops.unique {n : Node} {calls calls' : List String} {failure failure' : Failure}
    (h : Stops engine maxDepth n calls failure) (h' : Stops engine maxDepth n calls' failure') :
    calls = calls' ∧ failure = failure' := by
  cases h with
  | tooDeep =>
    cases h' with
    | tooDeep => exact ⟨rfl, rfl⟩
    | refused hLevel => omega
  | refused hLevel hCompile =>
    cases h' with
    | tooDeep => omega
    | refused _ hCompile' =>
      rw [hCompile] at hCompile'
      cases hCompile'
      exact ⟨rfl, rfl⟩

/-- Only a refused pattern is in the way within the limit. -/
theorem passes_of_le {level : Nat} {e : Expr} (hLevel : level ≤ maxDepth)
    (hPattern : ∀ text, e = .pattern text → ∃ p, engine.compile text = .ok p) :
    Passes engine maxDepth ⟨level, e⟩ := by
  intro calls failure h
  cases h with
  | tooDeep => omega
  | refused _ hRefused =>
    obtain ⟨p, hCompile⟩ := hPattern _ rfl
    rw [hRefused] at hCompile
    cases hCompile

theorem passes_apply {level : Nat} (hLevel : level ≤ maxDepth) (op : Operator) (es : List Expr) :
    Passes engine maxDepth ⟨level, .apply op es⟩ :=
  passes_of_le hLevel fun _ h => nomatch h

theorem passes_pattern {level : Nat} {text : String} {p : P} (hLevel : level ≤ maxDepth)
    (h : engine.compile text = .ok p) : Passes engine maxDepth ⟨level, .pattern text⟩ := by
  refine passes_of_le hLevel fun text' hText => ?_
  cases hText
  exact ⟨p, h⟩

theorem visits_first {before after : List Node} {node : Node} {calls : List String}
    {failure : Failure} {b : Building Unit}
    (h : Visits engine maxDepth (before ++ node :: after) b)
    (hBefore : ∀ n ∈ before, Passes engine maxDepth n)
    (hNode : Stops engine maxDepth node calls failure) :
    b = ⟨patternsAmong before ++ calls, .error failure⟩ := by
  induction before generalizing b with
  | nil =>
    cases h with
    | stop hStops =>
      obtain ⟨rfl, rfl⟩ := hStops.unique hNode
      rfl
    | pass hPasses => exact absurd hNode (hPasses calls failure)
  | cons n before ih =>
    obtain ⟨hn, hRest⟩ := List.forall_mem_cons.mp hBefore
    cases h with
    | stop hStops => exact absurd hStops (hn _ _)
    | pass _ hVisits =>
      rw [ih hVisits hRest, patternsAmong_cons, List.append_assoc]

theorem visits_all {ns : List Node} {b : Building Unit} (h : Visits engine maxDepth ns b)
    (hAll : ∀ n ∈ ns, Passes engine maxDepth n) : b = ⟨patternsAmong ns, .ok ()⟩ := by
  induction h with
  | nil => rfl
  | stop hStops => exact absurd hStops (hAll _ List.mem_cons_self _ _)
  | pass _ _ ih =>
    rw [ih (List.forall_mem_cons.mp hAll).2, patternsAmong_cons]

/-! ## Builds visit nodes -/

/-- Operands are visited one after the other if each of them is visited on its own. -/
theorem visits_buildEach {level : Nat} {es : List Expr}
    (hEach : ∀ e ∈ es, ∀ ns b, Visits engine maxDepth ns b →
      Visits engine maxDepth (e.nodesAt level ++ ns)
        ((buildAt engine maxDepth level e).andThen fun _ => b))
    {ns : List Node} {b : Building Unit} (h : Visits engine maxDepth ns b) :
    Visits engine maxDepth (Expr.nodesBelow level es ++ ns)
      ((buildEach engine maxDepth level es).andThen fun _ => b) := by
  induction es with
  | nil => exact h
  | cons e es ih =>
    obtain ⟨hHead, hTail⟩ := List.forall_mem_cons.mp hEach
    rw [Expr.nodesBelow, List.append_assoc, buildEach, Building.andThen_assoc]
    simp only [Building.map_andThen]
    exact hHead _ _ (ih hTail)

theorem visits_beyond (e : Expr) (ns : List Node) (b : Building Unit) :
    Visits engine maxDepth (e.nodesAt (maxDepth + 1) ++ ns)
      ((buildAt engine maxDepth (maxDepth + 1) e).andThen fun _ => b) := by
  obtain ⟨ms, hNodes⟩ := e.exists_nodesAt_eq_cons (maxDepth + 1)
  rw [hNodes, buildAt.eq_def, if_pos (Nat.lt_succ_self maxDepth)]
  exact .stop (.tooDeep e) _

/-- A build visits the nodes of its expression before whatever is visited next. -/
theorem visits_buildAt {level : Nat} {e : Expr} (hLevel : level ≤ maxDepth + 1) {ns : List Node}
    {b : Building Unit} (h : Visits engine maxDepth ns b) :
    Visits engine maxDepth (e.nodesAt level ++ ns)
      ((buildAt engine maxDepth level e).andThen fun _ => b) := by
  have hCases : level = maxDepth + 1 ∨ level ≤ maxDepth := by omega
  induction e using Expr.induction generalizing level ns b with
  | word text =>
    obtain rfl | hLe := hCases
    · exact visits_beyond _ ns b
    · rw [buildAt, if_neg (Nat.not_lt.mpr hLe)]
      exact .pass (passes_of_le hLe fun _ hWord => nomatch hWord) h
  | pattern text =>
    obtain rfl | hLe := hCases
    · exact visits_beyond _ ns b
    · rw [buildAt, if_neg (Nat.not_lt.mpr hLe), callEngine]
      cases hCompile : engine.compile text with
      | error reason => exact .stop (.refused hLe hCompile) ns
      | ok p => exact .pass (passes_pattern hLe hCompile) h
  | apply op es ih =>
    obtain rfl | hLe := hCases
    · exact visits_beyond _ ns b
    · rw [buildAt, if_neg (Nat.not_lt.mpr hLe), Building.map_andThen]
      refine .pass (passes_apply hLe op es) (visits_buildEach (fun e he ns b hVisits => ?_) h)
      exact ih e he (by omega) hVisits (by omega)

theorem visits_build (engine : Engine P) (maxDepth : Nat) (e : Expr) :
    Visits engine maxDepth e.nodes
      ((build engine maxDepth e).andThen fun _ => Building.done ()) := by
  have hNil : Visits engine maxDepth [] (Building.done ()) := .nil
  have hVisits := visits_buildAt (e := e) (Nat.zero_le (maxDepth + 1)) hNil
  rwa [List.append_nil] at hVisits

/-- A build fails at the first node that is too deep or refused, for the reason that is found there,
and has called the engine for the patterns before this node, and for the node itself if it is
refused. Without such a node it succeeds and has called the engine for every pattern. -/
theorem build_stops_at_first (engine : Engine P) (maxDepth : Nat) (e : Expr) :
    (∀ before node after calls failure, e.nodes = before ++ node :: after →
      (∀ n ∈ before, Passes engine maxDepth n) → Stops engine maxDepth node calls failure →
      build engine maxDepth e = ⟨patternsAmong before ++ calls, .error failure⟩) ∧
    ((∀ n ∈ e.nodes, Passes engine maxDepth n) →
      ∃ m, build engine maxDepth e = ⟨patternsAmong e.nodes, .ok m⟩) := by
  have hVisits := visits_build engine maxDepth e
  constructor
  · intro before node after calls failure hNodes hBefore hNode
    rw [hNodes] at hVisits
    exact Building.eq_error_of_andThen_done (visits_first hVisits hBefore hNode)
  · intro hAll
    exact Building.exists_of_andThen_done (visits_all hVisits hAll)

/-- The engine would refuse `!b`, too, but only the higher limit lets it see this pattern. Neither
build reaches `!c`. -/
theorem build_stops_at_first_limit :
    build Engine.occurrences 1 (.apply .or [.pattern "a", .apply .not [.pattern "!b"],
      .pattern "!c"]) = ⟨["a"], .error (.tooDeep 2)⟩ ∧
    build Engine.occurrences 2 (.apply .or [.pattern "a", .apply .not [.pattern "!b"],
      .pattern "!c"]) = ⟨["a", "!b"], .error (.pattern "!b" "rejected b")⟩ ∧
    ∃ m, build Engine.occurrences 1 (.apply .and [.pattern "a", .apply .or []]) =
      ⟨["a"], .ok m⟩ := by
  let e : Expr := .apply .or [.pattern "a", .apply .not [.pattern "!b"], .pattern "!c"]
  have hOr (maxDepth : Nat) : Passes Engine.occurrences maxDepth ⟨0, e⟩ :=
    passes_apply (Nat.zero_le _) _ _
  have hPattern (maxDepth : Nat) (hLimit : 1 ≤ maxDepth) :
      Passes Engine.occurrences maxDepth ⟨1, .pattern "a"⟩ := passes_pattern hLimit rfl
  -- the nodes before the one where both builds stop
  have hBefore (maxDepth : Nat) (hLimit : 1 ≤ maxDepth) : ∀ n ∈ [⟨0, e⟩, ⟨1, .pattern "a"⟩,
      ⟨1, .apply .not [.pattern "!b"]⟩], Passes Engine.occurrences maxDepth n := by
    simp only [List.forall_mem_cons, List.not_mem_nil, false_imp_iff, implies_true, and_true]
    exact ⟨hOr maxDepth, hPattern maxDepth hLimit, passes_apply hLimit _ _⟩
  refine ⟨?_, ?_, ?_⟩
  · exact (build_stops_at_first Engine.occurrences 1 e).1 _ ⟨2, .pattern "!b"⟩
      [⟨1, .pattern "!c"⟩] _ _ rfl (hBefore 1 (by decide)) (.tooDeep _)
  · exact (build_stops_at_first Engine.occurrences 2 e).1 _ ⟨2, .pattern "!b"⟩
      [⟨1, .pattern "!c"⟩] _ _ rfl (hBefore 2 (by decide)) (.refused (by decide) rfl)
  · refine (build_stops_at_first Engine.occurrences 1 (.apply .and [.pattern "a", .apply .or []])).2
      (List.forall_mem_cons.mpr ⟨passes_apply (Nat.zero_le _) _ _, ?_⟩)
    exact List.forall_mem_cons.mpr ⟨hPattern 1 (by decide),
      List.forall_mem_singleton.mpr (passes_apply (Nat.le_refl 1) _ _)⟩

end Compiler

end LineSieve
