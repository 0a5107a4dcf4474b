import LineSieve.Matcher.Engines
import LineSieve.Proofs.Matcher.Order

/-!
# What an evaluation depends on

The patterns of a matcher are numbered from left to right, so that tests can be compared between
matchers whose patterns are not the same, nor even of the same type.

* `Matcher.shape`: a matcher without its patterns.
* `Matcher.numbered`: the matcher with the position of each pattern in its place.
* `Matcher.testedAt`: the positions of the patterns that an evaluation tests.
* `evaluate_numbered`: an evaluation of a matcher is one of its positions.
* `evaluate_congr`: an evaluation depends only on the answers that it asks for.
* `evaluation_order`: the tests of an evaluation, whose answer is `isMatch`, are those that the
  order asks for, and patterns that are not tested influence neither the answer nor the tests.
-/

namespace LineSieve.Matcher

variable {P Q : Type}

/-! ## Other patterns in the same places -/

mutual

/-- The matcher with other patterns. -/
def map (f : P → Q) : Matcher P → Matcher Q
  | substring word => substring word
  | pattern p => pattern (f p)
  | apply op ms => apply op (mapEach f ms)

/-- The operands with other patterns. -/
def mapEach (f : P → Q) : List (Matcher P) → List (Matcher Q)
  | [] => []
  | m :: ms => map f m :: mapEach f ms

end

/-- Operators and words, and where there are patterns. -/
def shape (m : Matcher P) : Matcher Unit := m.map fun _ => ()

mutual

/-- The matcher with numbers for its patterns, from left to right and from `n` on. -/
def numberFrom (n : Nat) : Matcher P → Matcher Nat
  | substring word => substring word
  | pattern _ => pattern n
  | apply op ms => apply op (numberEachFrom n ms)

/-- The operands with numbers for their patterns. -/
def numberEachFrom (n : Nat) : List (Matcher P) → List (Matcher Nat)
  | [] => []
  | m :: ms => numberFrom n m :: numberEachFrom (n + m.patterns.length) ms

end

def numbered (m : Matcher P) : Matcher Nat := m.numberFrom 0

/-- The positions of the patterns that are tested, in the order of the tests. A position answers as
the pattern that stands there. -/
def testedAt (test : P → Bool) (text : String) (m : Matcher P) : List Nat :=
  (m.numbered.evaluate (fun i => m.patterns[i]?.any test) text).tested

theorem mapEach_eq (f : P → Q) (ms : List (Matcher P)) : mapEach f ms = ms.map (map f) := by
  induction ms with
  | nil => rfl
  | cons m ms ih => rw [mapEach, ih, List.map_cons]

theorem patterns_map (f : P → Q) (m : Matcher P) : (m.map f).patterns = m.patterns.map f := by
  induction m using Matcher.induction with
  | substring word => rfl
  | pattern p => rfl
  | apply op ms ih =>
    rw [map, patterns, patterns, mapEach_eq, patternsBelow_eq, patternsBelow_eq, List.map_flatMap,
      List.flatMap_map]
    exact List.flatMap_congr ih

/-! ## Positions -/

theorem patterns_numberFrom (n : Nat) (m : Matcher P) :
    (m.numberFrom n).patterns = List.range' n m.patterns.length := by
  induction m using Matcher.induction generalizing n with
  | substring word => rfl
  | pattern p => rfl
  | apply op ms ih =>
    rw [numberFrom, patterns, patterns]
    induction ms generalizing n with
    | nil => rfl
    | cons m ms ihRow =>
      obtain ⟨hHead, hTail⟩ := List.forall_mem_cons.mp ih
      rw [numberEachFrom, patternsBelow, patternsBelow, hHead, ihRow hTail, List.length_append]
      exact List.range'_append_1

theorem numberFrom_map (f : P → Q) (n : Nat) (m : Matcher P) :
    (m.map f).numberFrom n = m.numberFrom n := by
  induction m using Matcher.induction generalizing n with
  | substring word => rfl
  | pattern p => rfl
  | apply op ms ih =>
    rw [map, numberFrom, numberFrom]
    congr 1
    induction ms generalizing n with
    | nil => rfl
    | cons m ms ihRow =>
      obtain ⟨hHead, hTail⟩ := List.forall_mem_cons.mp ih
      rw [mapEach, numberEachFrom, numberEachFrom, hHead, ihRow hTail, patterns_map,
        List.length_map]

/-- Positions depend on the shape alone. -/
theorem numbered_eq_of_shape {m : Matcher P} {m' : Matcher Q} (h : m'.shape = m.shape) :
    m'.numbered = m.numbered := by
  calc m'.numbered
    _ = m'.shape.numbered := (numberFrom_map _ 0 m').symm
    _ = m.shape.numbered := by rw [h]
    _ = m.numbered := numberFrom_map _ 0 m

/-- What stands at the positions of a matcher within a longer row of patterns is the matcher. -/
theorem map_numberFrom (m : Matcher P) (before after : List P) :
    (m.numberFrom before.length).map (fun i => (before ++ (m.patterns ++ after))[i]?) =
      m.map some := by
  induction m using Matcher.induction generalizing before after with
  | substring word => rfl
  | pattern p => simp [numberFrom, patterns, map]
  | apply op ms ih =>
    rw [numberFrom, map, map, patterns]
    congr 1
    induction ms generalizing before with
    | nil => rfl
    | cons m ms ihRow =>
      obtain ⟨hHead, hTail⟩ := List.forall_mem_cons.mp ih
      have hRest := ihRow hTail (before ++ m.patterns)
      rw [List.length_append, List.append_assoc] at hRest
      rw [numberEachFrom, mapEach, mapEach, patternsBelow, List.append_assoc, hHead, hRest]

theorem map_numbered (m : Matcher P) : m.numbered.map (fun i => m.patterns[i]?) = m.map some := by
  have hMap := map_numberFrom m [] []
  rwa [List.nil_append, List.append_nil] at hMap

/-! ## Evaluation -/

namespace Verdict

def map (f : P → Q) (v : Verdict P) : Verdict Q := ⟨v.holds, v.tested.map f⟩

theorem after_map (f : P → Q) (tested : List P) (v : Verdict P) :
    (v.after tested).map f = (v.map f).after (tested.map f) :=
  congrArg (Verdict.mk v.holds) List.map_append

theorem firstOf_map (f : P → Q) (stop : Bool) (vs : List (Verdict P)) :
    firstOf stop (vs.map (map f)) = (firstOf stop vs).map f := by
  induction vs with
  | nil => rfl
  | cons v vs ih =>
    have hHolds : (v.map f).holds = v.holds := rfl
    rw [List.map_cons, firstOf, firstOf, ih, hHolds, apply_ite (map f), after_map]
    rfl

theorem conclude_map (f : P → Q) (op : Operator) (v : Verdict P) :
    (v.map f).conclude op = (v.conclude op).map f := by
  cases op <;> rfl

end Verdict

theorem evaluate_map (f : P → Q) (test : Q → Bool) (text : String) (m : Matcher P) :
    (m.map f).evaluate test text = (m.evaluate (fun p => test (f p)) text).map f := by
  induction m using Matcher.induction with
  | substring word => rfl
  | pattern p => rfl
  | apply op ms ih =>
    have hOperands : (ms.map (map f)).map (evaluate test text) =
        (ms.map (evaluate (fun p => test (f p)) text)).map (Verdict.map f) := by
      rw [List.map_map, List.map_map]
      exact List.map_congr_left ih
    rw [map, mapEach_eq, evaluate_apply, hOperands, Verdict.firstOf_map, Verdict.conclude_map,
      ← evaluate_apply]

/-- An evaluation of a matcher is one of its positions, with what stands there. -/
theorem evaluate_numbered (test : P → Bool) (text : String) (m : Matcher P) :
    (m.evaluate test text).map some =
      (m.numbered.evaluate (fun i => m.patterns[i]?.any test) text).map (m.patterns[·]?) := by
  calc (m.evaluate test text).map some
    _ = (m.map some).evaluate (Option.any test) text :=
      (evaluate_map some (Option.any test) text m).symm
    _ = (m.numbered.map fun i => m.patterns[i]?).evaluate (Option.any test) text := by
      rw [map_numbered]
    _ = (m.numbered.evaluate (fun i => m.patterns[i]?.any test) text).map (m.patterns[·]?) :=
      evaluate_map _ _ text m.numbered

theorem firstOf_congr {test test' : P → Bool} {text : String} {stop : Bool}
    {ms : List (Matcher P)}
    (hEach : ∀ m ∈ ms, (∀ p ∈ (m.evaluate test text).tested, test' p = test p) →
      m.evaluate test' text = m.evaluate test text)
    (h : ∀ p ∈ (Verdict.firstOf stop (ms.map (evaluate test text))).tested, test' p = test p) :
    Verdict.firstOf stop (ms.map (evaluate test' text)) =
      Verdict.firstOf stop (ms.map (evaluate test text)) := by
  induction ms with
  | nil => rfl
  | cons m ms ih =>
    obtain ⟨hHead, hTail⟩ := List.forall_mem_cons.mp hEach
    rw [List.map_cons, Verdict.firstOf] at h
    rw [List.map_cons, List.map_cons, Verdict.firstOf, Verdict.firstOf]
    by_cases hStop : (m.evaluate test text).holds = stop
    · rw [if_pos hStop] at h
      rw [hHead h]
      simp only [if_pos hStop]
    · rw [if_neg hStop, Verdict.after, List.forall_mem_append] at h
      rw [hHead h.1, ih hTail h.2]

/-- Patterns that are not tested may answer anything. -/
theorem evaluate_congr {test test' : P → Bool} {text : String} {m : Matcher P}
    (h : ∀ p ∈ (m.evaluate test text).tested, test' p = test p) :
    m.evaluate test' text = m.evaluate test text := by
  induction m using Matcher.induction with
  | substring word => rfl
  | pattern p =>
    rw [evaluate, evaluate, h p List.mem_cons_self]
  | apply op ms ih =>
    rw [evaluate_apply, Verdict.tested_conclude] at h
    rw [evaluate_apply, evaluate_apply, firstOf_congr ih h]

theorem any_eq_getD {α : Type} (p : α → Bool) (a : Option α) : a.any p = (a.map p).getD false := by
  cases a <;> rfl

/-- The evaluation of a matcher answers what the matcher means, with the tests that the order asks
for. These are tests of some of the patterns, each at most once and from left to right. Any matcher
of the same shape, whose patterns give the same answers at the places that are tested, is answered
alike and tested at the same places. -/
theorem evaluation_order (test : P → Bool) (text : String) (m : Matcher P) :
    ((m.evaluate test text).holds = true ↔ m.Holds test text) ∧
    (∀ ps, Tests test text m ps ↔ (m.evaluate test text).tested = ps) ∧
    (m.evaluate test text).tested.Sublist m.patterns ∧
    (m.testedAt test text).Sublist (List.range m.patterns.length) ∧
    (m.testedAt test text).map (m.patterns[·]?) = (m.evaluate test text).tested.map some ∧
    (∀ {Q : Type} (test' : Q → Bool) (m' : Matcher Q), m'.shape = m.shape →
      (∀ i ∈ m.testedAt test text, m'.patterns[i]?.map test' = m.patterns[i]?.map test) →
      (m'.evaluate test' text).holds = (m.evaluate test text).holds ∧
        m'.testedAt test' text = m.testedAt test text) := by
  refine ⟨holds_evaluate_iff test text m, fun ps => tests_iff, tested_sublist_patterns m, ?_, ?_,
    fun test' m' hShape hAgree => ?_⟩
  · have hPositions := patterns_numberFrom 0 m
    rw [← List.range_eq_range'] at hPositions
    rw [← hPositions]
    exact tested_sublist_patterns m.numbered
  · exact (congrArg Verdict.tested (evaluate_numbered test text m)).symm
  · have hNumbered := numbered_eq_of_shape hShape
    have hEvaluate : m.numbered.evaluate (fun i => m'.patterns[i]?.any test') text =
        m.numbered.evaluate (fun i => m.patterns[i]?.any test) text := by
      refine evaluate_congr fun i hi => ?_
      rw [any_eq_getD, any_eq_getD, hAgree i hi]
    constructor
    · have hHolds := congrArg Verdict.holds (evaluate_numbered test' text m')
      rw [hNumbered, hEvaluate] at hHolds
      exact hHolds.trans (congrArg Verdict.holds (evaluate_numbered test text m)).symm
    · rw [testedAt, hNumbered, hEvaluate, testedAt]

/-- `AND` stops at its first operand and `NOT` at its third. In the second matcher the patterns
answer with their own value, and the two that are not tested do not answer as in the first one. -/
theorem evaluation_order_skipped :
    Tests (Substring.occursIn · "b") "b" (.apply .not [.pattern "a",
      .apply .and [.pattern "c", .pattern "b"], .pattern "b", .pattern "a"]) ["a", "c", "b"] ∧
    (evaluate id "b" (.apply .not [.pattern false, .apply .and [.pattern false, .pattern false],
      .pattern true, .pattern true])).holds = false ∧
    testedAt id "b" (.apply .not [.pattern false, .apply .and [.pattern false, .pattern false],
      .pattern true, .pattern true]) = [0, 1, 3] := by
  obtain ⟨-, hTests, -, -, -, hAlike⟩ := evaluation_order (Substring.occursIn · "b") "b"
    (.apply .not [.pattern "a", .apply .and [.pattern "c", .pattern "b"], .pattern "b",
      .pattern "a"])
  obtain ⟨hHolds, hTestedAt⟩ := hAlike id (.apply .not [.pattern false,
    .apply .and [.pattern false, .pattern false], .pattern true, .pattern true]) rfl (by decide)
  exact ⟨(hTests _).mpr (by decide), hHolds.trans (by decide), hTestedAt.trans (by decide)⟩

end LineSieve.Matcher
