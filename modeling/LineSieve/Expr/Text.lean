import LineSieve.Expr.Parser
import LineSieve.Failure
import LineSieve.Log

/-!
# Expressions as texts

A text is split into tokens first, so that an error in a word wins over one in the grammar.

* `Expr.read`: the expression of a text with the tokens that were taken for it.
* `Expr.parse`: the expression of a text.
-/

namespace LineSieve.Expr

/-- An attempt to read an expression: the tokens that the parser took, and what came of it. -/
structure Reading where
  taken : List Token
  result : Except Failure Expr

def read (text : String) : Reading :=
  match tokenize text with
  | .error e => ⟨[], .error (.lexical e)⟩
  | .ok tokens =>
    let run := Parser.parseTokens tokens
    ⟨run.shifted, run.result.mapError .parse⟩

/-- The expression that a text stands for. -/
def parse (text : String) : Except Failure Expr := (read text).result

/-- The record of a token that the parser took. -/
def shiftRecord (token : Token) : LogRecord :=
  ⟨.trace, "bmatch::parser", "shift " ++ token.display⟩

/-- What is logged while an expression is read. -/
def Reading.log (r : Reading) : List LogRecord := r.taken.map shiftRecord

end LineSieve.Expr
