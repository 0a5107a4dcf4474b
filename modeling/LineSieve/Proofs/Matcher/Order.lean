import LineSieve.Proofs.Matcher.Levels
import LineSieve.Proofs.Matcher.Meaning
import Mathlib.Data.List.Flatten

/-!
# The order of tests

Operands are tested from left to right, up to and including the first that decides: one that holds
below `NOT` and `OR`, one that does not hold below `AND`.

* `Matcher.Holds`: what a matcher means, in terms of all operands and without an order.
* `Matcher.Tests`: the patterns that are tested in this order, as a relation that does not know the
  evaluation.
* `Verdict.firstOf`: the verdict of operands from the verdicts on each of them. Every operator is a
  case of it (`evaluate_apply`), so that what follows about evaluation is proved once for all.
* `holds_evaluate_iff`, `tests_iff`: an evaluation finds out what the matcher means, with these
  tests.
* `tested_sublist_patterns`: no pattern is tested twice or out of its turn.
-/

namespace LineSieve.Matcher

variable {P : Type}

/-- Induction over matchers: what holds of all operands holds of the matcher. -/
@[elab_as_elim]
theorem induction {motive : Matcher P → Prop} (substring : ∀ word, motive (.substring word))
    (pattern : ∀ p, motive (.pattern p))
    (apply : ∀ op ms, (∀ m ∈ ms, motive m) → motive (.apply op ms)) (m : Matcher P) :
    motive m := by
  refine @Matcher.rec P motive (fun ms => ∀ m ∈ ms, motive m) substring pattern apply ?_ ?_ m
  · intro m hm
    cases hm
  · intro m ms hHead hTail
    exact List.forall_mem_cons.mpr ⟨hHead, hTail⟩

/-! ## Meaning and order -/

/-- The matcher holds of the text, where `test` tells which patterns match in it. -/
def Holds (test : P → Bool) (text : String) : Matcher P → Prop
  | substring word => Substring.occursIn word text = true
  | pattern p => test p = true
  | apply .not ms => ∀ m, m ∈ ms → ¬ Holds test text m
  | apply .and ms => ∀ m, m ∈ ms → Holds test text m
  | apply .or ms => ∃ m, ∃ _ : m ∈ ms, Holds test text m

/-- The operand decides what the operator comes to. -/
def Decides (test : P → Bool) (text : String) (op : Operator) (m : Matcher P) : Prop :=
  match op with
  | .not | .or => m.Holds test text
  | .and => ¬ m.Holds test text

/-- `seen` is the row up to and including the first element that decides, or all of it. -/
inductive UpTo {α : Type} (decides : α → Prop) : (row seen : List α) → Prop where
  | all {row : List α} (h : ∀ a ∈ row, ¬ decides a) : UpTo decides row row
  | first (before : List α) {a : α} (h : ∀ b ∈ before, ¬ decides b) (ha : decides a)
      (after : List α) : UpTo decides (before ++ a :: after) (before ++ [a])

theorem UpTo.isPrefix {α : Type} {decides : α → Prop} {row seen : List α}
    (h : UpTo decides row seen) : seen <+: row := by
  cases h with
  | all => exact List.prefix_rfl
  | @first before a _ _ after => exact ⟨after, by simp⟩

theorem exists_upTo {α : Type} (decides : α → Prop) (row : List α) :
    ∃ seen, UpTo decides row seen := by
  induction row with
  | nil => exact ⟨[], .all fun _ h => nomatch h⟩
  | cons a row ih =>
    by_cases ha : decides a
    · exact ⟨[a], .first [] (fun _ h => nomatch h) ha row⟩
    · obtain ⟨seen, hSeen⟩ := ih
      cases hSeen with
      | all h => exact ⟨_, .all (List.forall_mem_cons.mpr ⟨ha, h⟩)⟩
      | first before h hb after =>
        exact ⟨_, .first (a :: before) (List.forall_mem_cons.mpr ⟨ha, h⟩) hb after⟩

/-- These patterns are tested, in this order. -/
inductive Tests (test : P → Bool) (text : String) : Matcher P → List P → Prop where
  | substring (word : String) : Tests test text (.substring word) []
  | pattern (p : P) : Tests test text (.pattern p) [p]
  | apply {op : Operator} {ms seen : List (Matcher P)} {tested : List (List P)}
      (hSeen : UpTo (Decides test text op) ms seen)
      (h : List.Forall₂ (Tests test text) seen tested) :
      Tests test text (.apply op ms) tested.flatten

mutual

/-- The patterns of a matcher, from left to right. -/
def patterns : Matcher P → List P
  | substring _ => []
  | pattern p => [p]
  | apply _ ms => patternsBelow ms

/-- The patterns of operands. -/
def patternsBelow : List (Matcher P) → List P
  | [] => []
  | m :: ms => m.patterns ++ patternsBelow ms

end

theorem patternsBelow_eq (ms : List (Matcher P)) : patternsBelow ms = ms.flatMap patterns := by
  induction ms with
  | nil => rfl
  | cons m ms ih => rw [patternsBelow, ih, List.flatMap_cons]

/-! ## Verdicts on operands -/

namespace Verdict

/-- Goes through verdicts up to and including the first that answers `stop`. -/
def firstOf (stop : Bool) : List (Verdict P) → Verdict P
  | [] => ⟨!stop, []⟩
  | v :: vs => if v.holds = stop then v else (firstOf stop vs).after v.tested

/-- What an operator concludes from the verdict at which it stops. -/
def conclude (op : Operator) (v : Verdict P) : Verdict P :=
  match op with
  | .not => v.negate
  | .and | .or => v

@[simp]
theorem tested_conclude (op : Operator) (v : Verdict P) : (v.conclude op).tested = v.tested := by
  cases op <;> rfl

end Verdict

/-- The answer of an operand that decides. -/
def decisive : Operator → Bool
  | .not | .or => true
  | .and => false

variable {test : P → Bool} {text : String}

theorem evaluateAny_eq (ms : List (Matcher P)) :
    evaluateAny test text ms = Verdict.firstOf true (ms.map (evaluate test text)) := by
  induction ms with
  | nil => rfl
  | cons m ms ih => rw [evaluateAny, ih, List.map_cons, Verdict.firstOf]

theorem evaluateAll_eq (ms : List (Matcher P)) :
    evaluateAll test text ms = Verdict.firstOf false (ms.map (evaluate test text)) := by
  induction ms with
  | nil => rfl
  | cons m ms ih =>
    rw [evaluateAll, ih, List.map_cons, Verdict.firstOf]
    cases (evaluate test text m).holds <;> rfl

theorem evaluate_apply (op : Operator) (ms : List (Matcher P)) :
    (apply op ms).evaluate test text =
      (Verdict.firstOf (decisive op) (ms.map (evaluate test text))).conclude op := by
  cases op with
  | not => rw [evaluate, evaluateAny_eq]; rfl
  | and => rw [evaluate, evaluateAll_eq]; rfl
  | or => rw [evaluate, evaluateAny_eq]; rfl

/-! ## What is found out, by which tests -/

theorem holds_evaluate_iff (test : P → Bool) (text : String) (m : Matcher P) :
    (m.evaluate test text).holds = true ↔ m.Holds test text := by
  induction m using Matcher.induction with
  | substring word => rw [Holds]; rfl
  | pattern p => rw [Holds]; rfl
  | apply op ms ih =>
    cases op with
    | not =>
      rw [Holds, evaluate, Verdict.negate, holds_evaluateAny]
      simp only [Bool.not_eq_true', List.any_eq_false]
      exact forall₂_congr fun m hm => not_congr (ih m hm)
    | and =>
      rw [Holds, evaluate, holds_evaluateAll, List.all_eq_true]
      exact forall₂_congr ih
    | or =>
      rw [Holds, evaluate, holds_evaluateAny, List.any_eq_true]
      constructor
      · rintro ⟨m, hm, h⟩
        exact ⟨m, hm, (ih m hm).mp h⟩
      · rintro ⟨m, hm, h⟩
        exact ⟨m, hm, (ih m hm).mpr h⟩

theorem decides_iff (op : Operator) (m : Matcher P) :
    Decides test text op m ↔ (m.evaluate test text).holds = decisive op := by
  cases op with
  | not | or => exact (holds_evaluate_iff test text m).symm
  | and =>
    rw [Decides, ← holds_evaluate_iff, decisive, Bool.not_eq_true]

/-- The tests made for operands are those made for the operands that are seen. -/
theorem tested_firstOf {stop : Bool} {decides : Matcher P → Prop} {ms seen : List (Matcher P)}
    (hDecides : ∀ m, decides m ↔ (m.evaluate test text).holds = stop) (h : UpTo decides ms seen) :
    (Verdict.firstOf stop (ms.map (evaluate test text))).tested =
      seen.flatMap fun m => (m.evaluate test text).tested := by
  cases h with
  | all h =>
    induction ms with
    | nil => rfl
    | cons m ms ih =>
      obtain ⟨hHead, hTail⟩ := List.forall_mem_cons.mp h
      rw [hDecides] at hHead
      rw [List.map_cons, Verdict.firstOf, if_neg hHead, Verdict.after, ih hTail, List.flatMap_cons]
  | @first before m h hm after =>
    induction before with
    | nil =>
      rw [List.nil_append, List.map_cons, Verdict.firstOf, if_pos ((hDecides m).mp hm)]
      simp
    | cons m' before ih =>
      obtain ⟨hHead, hTail⟩ := List.forall_mem_cons.mp h
      rw [hDecides] at hHead
      rw [List.cons_append, List.map_cons, Verdict.firstOf, if_neg hHead, Verdict.after, ih hTail,
        List.cons_append, List.flatMap_cons]

/-- The tests made in an evaluation are those that the order asks for. -/
theorem tests_iff {m : Matcher P} {ps : List P} :
    Tests test text m ps ↔ (m.evaluate test text).tested = ps := by
  induction m using Matcher.induction generalizing ps with
  | substring word =>
    constructor
    · intro h
      cases h
      rfl
    · rintro rfl
      exact .substring word
  | pattern p =>
    constructor
    · intro h
      cases h
      rfl
    · rintro rfl
      exact .pattern p
  | apply op ms ih =>
    have hEach {seen : List (Matcher P)} (hSeen : UpTo (Decides test text op) ms seen)
        (tested : List (List P)) : List.Forall₂ (Tests test text) seen tested ↔
          (seen.map fun m => (m.evaluate test text).tested) = tested := by
      rw [forall₂_congr_of_mem fun m hm _ => ih m (hSeen.isPrefix.subset hm),
        ← List.forall₂_map_left_iff, List.forall₂_eq_eq_eq]
    rw [evaluate_apply, Verdict.tested_conclude]
    constructor
    · intro h
      cases h with
      | apply hSeen hTests =>
        rw [tested_firstOf (decides_iff op) hSeen, List.flatMap_def, (hEach hSeen _).mp hTests]
    · rintro rfl
      obtain ⟨seen, hSeen⟩ := exists_upTo (Decides test text op) ms
      rw [tested_firstOf (decides_iff op) hSeen, List.flatMap_def]
      exact .apply hSeen ((hEach hSeen _).mpr rfl)

/-! ## Each pattern at most once -/

theorem tested_sublist_patterns (m : Matcher P) :
    (m.evaluate test text).tested.Sublist m.patterns := by
  induction m using Matcher.induction with
  | substring word => exact .slnil
  | pattern p => exact .refl [p]
  | apply op ms ih =>
    obtain ⟨seen, hSeen⟩ := exists_upTo (Decides test text op) ms
    rw [evaluate_apply, Verdict.tested_conclude, tested_firstOf (decides_iff op) hSeen, patterns,
      patternsBelow_eq]
    exact (hSeen.isPrefix.sublist.flatMap _).trans (List.Sublist.flatMap_right ms ih)

end LineSieve.Matcher
