/-!
# Expressions

The syntax tree of an expression: words to look for, patterns, and operators over any number of
operands. Parsed expressions have one operand for `NOT` and two for `AND` and `OR`.

* `Expr.depth`: how deep operators nest.
* `Expr.explain`: the tree as text, for instance `OR[/foo/,AND['bar',NOT['baz']]]`.
-/

namespace LineSieve

inductive Operator where
  | not
  | and
  | or
  deriving DecidableEq, Repr

namespace Operator

def name : Operator → String
  | not => "NOT"
  | and => "AND"
  | or => "OR"

end Operator

inductive Expr where
  /-- Holds of a text that contains the word. -/
  | word (text : String)
  /-- Holds of a text in which the pattern matches. -/
  | pattern (text : String)
  /-- `NOT` holds if no operand does, `AND` if all do, `OR` if some does. -/
  | apply (op : Operator) (operands : List Expr)

namespace Expr

/-- The expression that holds of every text. -/
def any : Expr := .word ""

def operator? : Expr → Option Operator
  | word _ => none
  | pattern _ => none
  | apply op _ => some op

def operands : Expr → List Expr
  | word _ => []
  | pattern _ => []
  | apply _ es => es

/-- Induction over expressions: what holds of all operands holds of the expression. -/
@[elab_as_elim]
theorem induction {P : Expr → Prop} (word : ∀ text, P (.word text))
    (pattern : ∀ text, P (.pattern text))
    (apply : ∀ op es, (∀ e ∈ es, P e) → P (.apply op es)) (e : Expr) : P e := by
  refine @Expr.rec P (fun es => ∀ e ∈ es, P e) word pattern apply ?_ ?_ e
  · intro e he
    cases he
  · intro e es hHead hTail e' he'
    rcases List.mem_cons.mp he' with rfl | he'
    · exact hHead
    · exact hTail e' he'

/-! ## Depth -/

mutual

/-- The number of operators above the deepest literal. An operator without operands counts as a
literal. -/
def depth : Expr → Nat
  | word _ => 0
  | pattern _ => 0
  | apply _ es => depthBelow es

/-- The depth of an operator over these operands. -/
def depthBelow : List Expr → Nat
  | [] => 0
  | e :: es => max (e.depth + 1) (depthBelow es)

end

/-! ## Rendering -/

mutual

def explain : Expr → String
  | word text => "'" ++ text ++ "'"
  | pattern text => "/" ++ text ++ "/"
  | apply op [] => op.name
  | apply op (e :: es) => op.name ++ "[" ++ (explain e ++ explainRest es) ++ "]"

/-- The operands after the first, each behind a comma. -/
def explainRest : List Expr → String
  | [] => ""
  | e :: es => "," ++ (explain e ++ explainRest es)

end

end Expr

end LineSieve
