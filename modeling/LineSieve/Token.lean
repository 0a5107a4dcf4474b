import LineSieve.Text.Quoted

/-!
# Tokens

The tokens of an expression: parentheses, the operator words `NOT`, `AND` and `OR`, other words,
and the texts of patterns, which stand between slashes.
-/

namespace LineSieve

inductive Token where
  | openParen
  | closeParen
  | not
  | and
  | or
  | word (text : String)
  | pattern (text : String)
  deriving DecidableEq, Repr

namespace Token

/-- The operator that a word names. Case matters. -/
def keyword? (text : String) : Option Token :=
  if text = "NOT" then some .not
  else if text = "AND" then some .and
  else if text = "OR" then some .or
  else none

/-- The token of a word. -/
def ofWord (text : String) : Token := (keyword? text).getD (.word text)

/-- The form that logs show. -/
def display : Token → String
  | .openParen => "("
  | .closeParen => ")"
  | .not => "NOT"
  | .and => "AND"
  | .or => "OR"
  | .word text => Text.quote text
  | .pattern text => "/" ++ text ++ "/"

end Token

end LineSieve
