import LineSieve.Token

/-!
# From text to tokens

Blanks, parentheses and slashes end a word. A slash begins a pattern, which lasts to the next slash
that no backslash precedes; within a pattern, a backslash may only precede a slash.

The lexer reads one character at a time. Its `Mode` says where it is and holds what it has read of
the word or pattern it is in, so that between words there is nothing to hold.

* `Lexer.step`: the tokens that a character completes, and the mode after it.
* `Lexer.run`: the tokens of a sequence of characters, and the mode at its end.
* `tokenize`: all tokens of a text, or its first lexical error.
-/

namespace LineSieve

inductive LexicalError where
  /-- In a pattern, a backslash precedes something else than a slash. `text` is the pattern up to
  and with that character, without the backslash. -/
  | invalidEscape (text : String)
  /-- The text ends in a pattern, which reads `text` so far. -/
  | unclosedPattern (text : String)
  deriving DecidableEq, Repr

namespace LexicalError

def message : LexicalError → String
  | invalidEscape text => "invalid escape sequence in " ++ Text.quote text
  | unclosedPattern text => "unclosed regex literal in " ++ Text.quote text

end LexicalError

namespace Lexer

/-- Where the lexer is. What it has read of a word or a pattern is kept last character first. -/
inductive Mode where
  | between
  | word (read : List Char)
  | pattern (read : List Char)
  /-- In a pattern, after a backslash. -/
  | escape (read : List Char)
  deriving DecidableEq, Repr

/-- The text of characters kept last first. -/
def textOf (read : List Char) : String := String.ofList read.reverse

namespace Mode

/-- The word that ends where the lexer is. -/
def ended : Mode → List Token
  | word read => [Token.ofWord (textOf read)]
  | _ => []

/-- The mode after one more character of a word. -/
def extend (c : Char) : Mode → Mode
  | word read => word (c :: read)
  | _ => word [c]

end Mode

/-- Reads one character: the tokens it completes and the mode it leads to. -/
def step (mode : Mode) (c : Char) : Except LexicalError (List Token × Mode) :=
  match mode with
  | .escape read =>
    if c = '/' then .ok ([], .pattern ('/' :: read))
    else .error (.invalidEscape (textOf (c :: read)))
  | .pattern read =>
    if c = '/' then .ok ([.pattern (textOf read)], .between)
    else if c = '\\' then .ok ([], .escape read)
    else .ok ([], .pattern (c :: read))
  | mode =>
    if c = ' ' then .ok (mode.ended, .between)
    else if c = '(' then .ok (mode.ended ++ [.openParen], .between)
    else if c = ')' then .ok (mode.ended ++ [.closeParen], .between)
    else if c = '/' then .ok (mode.ended, .pattern [])
    else .ok ([], mode.extend c)

/-- Reads characters in order up to the first error. -/
def run (mode : Mode) : List Char → Except LexicalError (List Token × Mode)
  | [] => .ok ([], mode)
  | c :: cs => do
    let (ts, mode) ← step mode c
    let (us, mode) ← run mode cs
    return (ts ++ us, mode)

/-- The tokens that the end of the text completes. -/
def finish : Mode → Except LexicalError (List Token)
  | .pattern read => .error (.unclosedPattern (textOf read))
  | .escape read => .error (.unclosedPattern (textOf read))
  | mode => .ok mode.ended

end Lexer

/-- All tokens of a text, or its first lexical error. -/
def tokenize (text : String) : Except LexicalError (List Token) := do
  let (ts, mode) ← Lexer.run .between text.toList
  let us ← Lexer.finish mode
  return ts ++ us

end LineSieve
