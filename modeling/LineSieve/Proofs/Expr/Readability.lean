import LineSieve.Expr

/-!
# Reading explained expressions

The text that explains an expression leaves no doubt about the expression, unless a word in it holds
a single quote or a pattern a slash, which would seem to end them. Brackets, commas and the names of
operators may stand in words and patterns, and operators may have any number of operands.

An operator without operands has no brackets, and where it ends shows only in what follows. The
induction is therefore over explanations with a text behind them, which may be anything that does
not begin with an opening bracket.

* `Legible`: the expressions without such words and patterns.
* `ToldApart`: the explanation of an expression differs from all others, whatever follows both.
* `toldApart_of_legible`: legible expressions are told apart.
* `explain_identifies`: legible expressions with the same explanation are the same.
-/

namespace LineSieve

theorem Operator.name_append_inj {op op' : Operator} {x y : List Char}
    (h : op.name.toList ++ x = op'.name.toList ++ y) : op = op' ∧ x = y := by
  cases op <;> cases op' <;> simp_all [Operator.name]

namespace Expr

/-- No word and no pattern holds the mark that ends it. -/
def Legible : Expr → Prop
  | word text => '\'' ∉ text.toList
  | pattern text => '/' ∉ text.toList
  | apply _ es => ∀ e, e ∈ es → Legible e

/-! ## Explanations as characters -/

/-- A text between two marks. -/
def enclosed (mark : Char) (text : String) : List Char := mark :: (text.toList ++ [mark])

theorem toList_explain_word (text : String) :
    (explain (word text)).toList = enclosed '\'' text := by
  simp [explain, enclosed]

theorem toList_explain_pattern (text : String) :
    (explain (pattern text)).toList = enclosed '/' text := by
  simp [explain, enclosed]

/-- The operands behind the name of an operator. -/
def brackets : List Expr → List Char
  | [] => []
  | e :: es => '[' :: (e.explain.toList ++ ((explainRest es).toList ++ [']']))

theorem toList_explain_apply (op : Operator) (es : List Expr) :
    (explain (apply op es)).toList = op.name.toList ++ brackets es := by
  cases es <;> simp [explain, brackets]

theorem toList_explainRest_cons (e : Expr) (es : List Expr) :
    (explainRest (e :: es)).toList = ',' :: (e.explain.toList ++ (explainRest es).toList) := by
  simp [explainRest]

/-! ## Where an explanation ends -/

/-- The characters do not go on with operands. -/
def Unbracketed (after : List Char) : Prop := after.head? ≠ some '['

theorem unbracketed_rest (es : List Expr) (x : List Char) :
    Unbracketed ((explainRest es).toList ++ ']' :: x) := by
  cases es with
  | nil => simp [Unbracketed, explainRest]
  | cons e es => simp [Unbracketed, toList_explainRest_cons]

/-- A text that does not hold its mark ends at the next one. -/
theorem enclosed_append_inj {mark : Char} {text text' : String} (hText : mark ∉ text.toList)
    (hText' : mark ∉ text'.toList) {x y : List Char}
    (h : enclosed mark text ++ x = enclosed mark text' ++ y) : text = text' ∧ x = y := by
  simp only [enclosed, List.cons_append, List.append_assoc, List.nil_append, List.cons.injEq,
    true_and] at h
  have hSplit := congrArg (List.splitOn mark) h
  rw [List.splitOn_append_cons_self_of_not_mem hText,
    List.splitOn_append_cons_self_of_not_mem hText'] at hSplit
  have hChars : text.toList = text'.toList := (List.cons.inj hSplit).1
  rw [hChars] at h
  exact ⟨String.toList_injective hChars, (List.cons.inj (List.append_cancel_left h)).2⟩

/-- The explanation of `a` is that of no other legible expression, and it ends where it does however
the text goes on. -/
def ToldApart (a : Expr) : Prop :=
  ∀ ⦃b : Expr⦄, b.Legible → ∀ ⦃x y : List Char⦄, Unbracketed x → Unbracketed y →
    a.explain.toList ++ x = b.explain.toList ++ y → a = b ∧ x = y

theorem explainRest_append_inj {es es' : List Expr} (hes : ∀ e ∈ es, ToldApart e)
    (hes' : ∀ e ∈ es', Legible e) {x y : List Char}
    (h : (explainRest es).toList ++ ']' :: x = (explainRest es').toList ++ ']' :: y) :
    es = es' ∧ x = y := by
  induction es generalizing es' with
  | nil =>
    cases es' with
    | nil => simpa [explainRest] using h
    | cons e' es' => simp [explainRest] at h
  | cons e es ih =>
    cases es' with
    | nil => simp [explainRest] at h
    | cons e' es' =>
      obtain ⟨hHead, hTail⟩ := List.forall_mem_cons.mp hes
      obtain ⟨hHead', hTail'⟩ := List.forall_mem_cons.mp hes'
      simp only [toList_explainRest_cons, List.cons_append, List.append_assoc, List.cons.injEq,
        true_and] at h
      -- the first operands end at the comma or the bracket behind them
      obtain ⟨rfl, hRest⟩ := hHead hHead' (unbracketed_rest es x) (unbracketed_rest es' y) h
      obtain ⟨rfl, hAfter⟩ := ih hTail hTail' hRest
      exact ⟨rfl, hAfter⟩

theorem brackets_append_inj {es es' : List Expr} (hes : ∀ e ∈ es, ToldApart e)
    (hes' : ∀ e ∈ es', Legible e) {x y : List Char} (hx : Unbracketed x) (hy : Unbracketed y)
    (h : brackets es ++ x = brackets es' ++ y) : es = es' ∧ x = y := by
  cases es with
  | nil =>
    cases es' with
    | nil => exact ⟨rfl, h⟩
    | cons e' es' =>
      obtain rfl : x = brackets (e' :: es') ++ y := h
      exact absurd rfl hx
  | cons e es =>
    cases es' with
    | nil =>
      obtain rfl : brackets (e :: es) ++ x = y := h
      exact absurd rfl hy
    | cons e' es' =>
      -- behind the bracket stands what stands behind the comma of later operands
      have hCommas : (explainRest (e :: es)).toList ++ ']' :: x =
          (explainRest (e' :: es')).toList ++ ']' :: y := by
        simpa [brackets, toList_explainRest_cons] using h
      exact explainRest_append_inj hes hes' hCommas

/-! ## Legible expressions -/

theorem toldApart_of_legible {a : Expr} (ha : a.Legible) : ToldApart a := by
  induction a using Expr.induction with
  | word text =>
    intro b hb x y _ _ h
    cases b with
    | word text' =>
      rw [Legible] at ha hb
      rw [toList_explain_word, toList_explain_word] at h
      obtain ⟨rfl, hAfter⟩ := enclosed_append_inj ha hb h
      exact ⟨rfl, hAfter⟩
    | pattern text' => simp [toList_explain_word, toList_explain_pattern, enclosed] at h
    | apply op es =>
      cases op <;> simp [toList_explain_word, toList_explain_apply, enclosed, Operator.name] at h
  | pattern text =>
    intro b hb x y _ _ h
    cases b with
    | word text' => simp [toList_explain_word, toList_explain_pattern, enclosed] at h
    | pattern text' =>
      rw [Legible] at ha hb
      rw [toList_explain_pattern, toList_explain_pattern] at h
      obtain ⟨rfl, hAfter⟩ := enclosed_append_inj ha hb h
      exact ⟨rfl, hAfter⟩
    | apply op es =>
      cases op <;>
        simp [toList_explain_pattern, toList_explain_apply, enclosed, Operator.name] at h
  | apply op es ih =>
    intro b hb x y hx hy h
    rw [Legible] at ha
    cases b with
    | word text' =>
      cases op <;> simp [toList_explain_word, toList_explain_apply, enclosed, Operator.name] at h
    | pattern text' =>
      cases op <;>
        simp [toList_explain_pattern, toList_explain_apply, enclosed, Operator.name] at h
    | apply op' es' =>
      rw [Legible] at hb
      simp only [toList_explain_apply, List.append_assoc] at h
      obtain ⟨rfl, hBrackets⟩ := Operator.name_append_inj h
      obtain ⟨rfl, hAfter⟩ :=
        brackets_append_inj (fun e he => ih e he (ha e he)) hb hx hy hBrackets
      exact ⟨rfl, hAfter⟩

/-- Legible expressions are the same exactly if they are explained in the same way. -/
theorem explain_identifies {a b : Expr} (ha : a.Legible) (hb : b.Legible) :
    a.explain = b.explain ↔ a = b := by
  constructor
  · intro h
    have hEnd : Unbracketed [] := nofun
    have hChars : a.explain.toList ++ [] = b.explain.toList ++ [] := by rw [h]
    exact (toldApart_of_legible ha hb hEnd hEnd hChars).1
  · intro h
    rw [h]

/-- A quote in a word makes one operand look like two. -/
example : (apply .and [word "a','b"]).explain = (apply .and [word "a", word "b"]).explain := by
  decide

/-- An operator without operands and a word in brackets, and the operator with this word. -/
theorem explain_identifies_brackets :
    (apply .or [apply .not [], word "[/b/]"]).Legible ∧
    (apply .or [apply .not [word "[/b/]"]]).Legible ∧
    (apply .or [apply .not [], word "[/b/]"]).explain ≠
      (apply .or [apply .not [word "[/b/]"]]).explain := by
  have hTwo : (apply .or [apply .not [], word "[/b/]"]).Legible := by simp [Legible]
  have hOne : (apply .or [apply .not [word "[/b/]"]]).Legible := by simp [Legible]
  exact ⟨hTwo, hOne, fun h => absurd ((explain_identifies hTwo hOne).mp h) (by simp)⟩

end Expr

end LineSieve
