import LineSieve.Matcher.Engines
import LineSieve.Proofs.Matcher.Lowering
import LineSieve.Proofs.Text.Containment

/-!
# The meaning of expressions

`Holds` says when an expression holds of a text, in terms of all its operands and without an order
among them. A matcher stops at the first operand that decides; `build_keeps_meaning` says that it
decides the same.
-/

namespace LineSieve

variable {P : Type}

/-- The expression holds of the text, where patterns mean what the engine makes of them. -/
def Expr.Holds (engine : Engine P) (text : String) : Expr → Prop
  | .word w => w.toList <:+: text.toList
  | .pattern r => ∃ p, engine.compile r = .ok p ∧ engine.isMatch p text = true
  | .apply .not es => ∀ e, e ∈ es → ¬ Holds engine text e
  | .apply .and es => ∀ e, e ∈ es → Holds engine text e
  | .apply .or es => ∃ e, ∃ _ : e ∈ es, Holds engine text e

namespace Matcher

/-! ## Answers, without the tests made for them -/

theorem holds_evaluateAny (test : P → Bool) (text : String) (ms : List (Matcher P)) :
    (evaluateAny test text ms).holds = ms.any fun m => (evaluate test text m).holds := by
  induction ms with
  | nil => rfl
  | cons m ms ih =>
    rw [evaluateAny, List.any_cons, ← ih]
    cases h : (evaluate test text m).holds with
    | true => simp [h]
    | false => simp [Verdict.after]

theorem holds_evaluateAll (test : P → Bool) (text : String) (ms : List (Matcher P)) :
    (evaluateAll test text ms).holds = ms.all fun m => (evaluate test text m).holds := by
  induction ms with
  | nil => rfl
  | cons m ms ih =>
    rw [evaluateAll, List.all_cons, ← ih]
    cases h : (evaluate test text m).holds with
    | true => simp [Verdict.after]
    | false => simp [h]

variable (engine : Engine P) (text : String)

theorem isMatch_not (ms : List (Matcher P)) :
    isMatch engine (.apply .not ms) text = !ms.any fun m => m.isMatch engine text :=
  congrArg Bool.not (holds_evaluateAny _ _ _)

theorem isMatch_and (ms : List (Matcher P)) :
    isMatch engine (.apply .and ms) text = ms.all fun m => m.isMatch engine text :=
  holds_evaluateAll _ _ _

theorem isMatch_or (ms : List (Matcher P)) :
    isMatch engine (.apply .or ms) text = ms.any fun m => m.isMatch engine text :=
  holds_evaluateAny _ _ _

end Matcher

namespace Compiler

variable {engine : Engine P}

/-! ## Operands -/

section

variable {text : String} {es : List Expr} {ms : List (Matcher P)}

/-- Operands and their matchers agree on the text one by one. -/
abbrev AgreeEach (engine : Engine P) (text : String) : List Expr → List (Matcher P) → Prop :=
  List.Forall₂ fun e m => m.isMatch engine text = true ↔ e.Holds engine text

theorem any_isMatch_iff (h : AgreeEach engine text es ms) :
    (ms.any fun m => m.isMatch engine text) = true ↔ ∃ e ∈ es, e.Holds engine text := by
  induction h with
  | nil => simp
  | cons hHead _ ih =>
    simp only [List.any_cons, Bool.or_eq_true, hHead, ih, List.exists_mem_cons_iff]

theorem all_isMatch_iff (h : AgreeEach engine text es ms) :
    (ms.all fun m => m.isMatch engine text) = true ↔ ∀ e ∈ es, e.Holds engine text := by
  induction h with
  | nil => simp
  | cons hHead _ ih =>
    simp only [List.all_cons, Bool.and_eq_true, hHead, ih, List.forall_mem_cons]

end

/-! ## Matchers -/

theorem isMatch_iff_holds {e : Expr} {m : Matcher P} (h : Lowers engine e m) (text : String) :
    m.isMatch engine text = true ↔ e.Holds engine text := by
  induction e using Expr.induction generalizing m with
  | word w =>
    cases h
    rw [Expr.Holds]
    exact Substring.occursIn_iff_infix w text
  | pattern r =>
    cases h with
    | @pattern _ p hCompile =>
      rw [Expr.Holds]
      constructor
      · intro hMatch
        exact ⟨p, hCompile, hMatch⟩
      · rintro ⟨p', hCompile', hMatch⟩
        rw [hCompile] at hCompile'
        cases hCompile'
        exact hMatch
  | apply op es ih =>
    cases h with
    | @apply _ _ ms hOperands =>
      have hAgree : AgreeEach engine text es ms :=
        ((List.forall₂_and_left es ms).mpr ⟨fun e he m => @ih e he m, hOperands⟩).imp
          fun _ m h => h.1 m h.2
      cases op with
      | not =>
        rw [Matcher.isMatch_not, Expr.Holds, Bool.not_eq_true', ← Bool.not_eq_true,
          any_isMatch_iff hAgree]
        simp
      | and =>
        rw [Matcher.isMatch_and, Expr.Holds]
        exact all_isMatch_iff hAgree
      | or =>
        rw [Matcher.isMatch_or, Expr.Holds, any_isMatch_iff hAgree]
        simp

/-- A build that succeeds keeps the meaning of its expression, for every engine and every limit.
Hence a matcher compiled from a text means what the text is parsed to. -/
theorem build_keeps_meaning (engine : Engine P) (maxDepth : Nat) :
    (∀ e m, (build engine maxDepth e).result = .ok m →
      ∀ text, m.isMatch engine text = true ↔ e.Holds engine text) ∧
    (∀ source m, (compile engine maxDepth source).result = .ok m →
      ∃ e, Expr.parse source = .ok e ∧
        ∀ line, m.isMatch engine line = true ↔ e.Holds engine line) := by
  constructor
  · intro e m h text
    exact isMatch_iff_holds (lowers_of_build h) text
  · intro source m h
    obtain ⟨e, hParse, hBuild⟩ := exists_of_compile h
    exact ⟨e, hParse, isMatch_iff_holds (lowers_of_build hBuild)⟩

/-- A `NOT` of three operands, one of them an `OR` of none, and a text that is compiled. -/
theorem build_keeps_meaning_occurrences :
    Expr.Holds Engine.occurrences "xyz" (.apply .not [.word "a", .pattern "b", .apply .or []]) ∧
    ∃ e, Expr.parse "x AND NOT /b/" = .ok e ∧ e.Holds Engine.occurrences "xyz" := by
  obtain ⟨hBuild, hCompile⟩ := build_keeps_meaning Engine.occurrences 2
  have hNot := hBuild (.apply .not [.word "a", .pattern "b", .apply .or []])
    (.apply .not [.substring "a", .pattern "b", .apply .or []]) (by rfl) "xyz"
  have hParse : Expr.parse "x AND NOT /b/" =
      .ok (.apply .and [.word "x", .apply .not [.pattern "b"]]) := by rfl
  obtain ⟨e, hParsed, hHolds⟩ := hCompile "x AND NOT /b/"
    (.apply .and [.substring "x", .apply .not [.pattern "b"]]) ((result_compile hParse).trans rfl)
  exact ⟨hNot.mp (by decide), e, hParsed, (hHolds "xyz").mp (by decide)⟩

end Compiler

end LineSieve
