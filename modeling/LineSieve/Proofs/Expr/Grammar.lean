import LineSieve.Expr
import LineSieve.Token

/-!
# The grammar of expressions

Operators bind in three strengths, `NOT` most tightly and `OR` least, and `AND` and `OR` group to
the left:

* `or` is `and`, or `or OR and`;
* `and` is `unary`, or `and AND unary`;
* `unary` is `NOT unary`, or `primary`;
* `primary` is a word, a pattern, or `( or )`.

`Grammar.Derives` is this grammar with the tree of each derivation, in which groups leave no trace.
-/

namespace LineSieve.Grammar

inductive Level where
  | primary
  | unary
  | and
  | or
  deriving DecidableEq

/-- How weakly a level binds at most. -/
def Level.rank : Level → Nat
  | .primary => 0
  | .unary => 1
  | .and => 2
  | .or => 3

/-- The tokens derive from the level, and the expression is the tree of the derivation. -/
inductive Derives : Level → List Token → Expr → Prop where
  | word (text : String) : Derives .primary [.word text] (.word text)
  | pattern (text : String) : Derives .primary [.pattern text] (.pattern text)
  | group {ts : List Token} {e : Expr} (h : Derives .or ts e) :
      Derives .primary (.openParen :: (ts ++ [.closeParen])) e
  | ofPrimary {ts : List Token} {e : Expr} (h : Derives .primary ts e) : Derives .unary ts e
  | not {ts : List Token} {e : Expr} (h : Derives .unary ts e) :
      Derives .unary (.not :: ts) (.apply .not [e])
  | ofUnary {ts : List Token} {e : Expr} (h : Derives .unary ts e) : Derives .and ts e
  | and {ts us : List Token} {l r : Expr} (hl : Derives .and ts l) (hr : Derives .unary us r) :
      Derives .and (ts ++ .and :: us) (.apply .and [l, r])
  | ofAnd {ts : List Token} {e : Expr} (h : Derives .and ts e) : Derives .or ts e
  | or {ts us : List Token} {l r : Expr} (hl : Derives .or ts l) (hr : Derives .and us r) :
      Derives .or (ts ++ .or :: us) (.apply .or [l, r])

namespace Derives

variable {level : Level} {ts : List Token} {e : Expr}

/-- What derives from a level derives from every weaker one. -/
theorem weaken (h : Derives level ts e) {place : Level} (hl : level.rank ≤ place.rank) :
    Derives place ts e := by
  cases place with
  | primary =>
    cases level with
    | primary => exact h
    | _ => exact absurd hl (by decide)
  | unary =>
    cases level with
    | primary => exact .ofPrimary h
    | unary => exact h
    | _ => exact absurd hl (by decide)
  | and =>
    cases level with
    | primary => exact .ofUnary (.ofPrimary h)
    | unary => exact .ofUnary h
    | and => exact h
    | or => exact absurd hl (by decide)
  | or =>
    cases level with
    | primary => exact .ofAnd (.ofUnary (.ofPrimary h))
    | unary => exact .ofAnd (.ofUnary h)
    | and => exact .ofAnd h
    | or => exact h

theorem ne_nil (h : Derives level ts e) : ts ≠ [] := by
  induction h with
  | word | pattern | group | not => exact List.cons_ne_nil _ _
  | ofPrimary _ ih | ofUnary _ ih | ofAnd _ ih => exact ih
  | and | or => simp

theorem head?_append (h : Derives level ts e) (us : List Token) :
    (ts ++ us).head? = ts.head? := by
  obtain ⟨t, ts, rfl⟩ := List.exists_cons_of_ne_nil h.ne_nil
  rfl

end Derives

end LineSieve.Grammar
