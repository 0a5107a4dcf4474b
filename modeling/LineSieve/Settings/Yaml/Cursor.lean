/-!
# Places in a text of lines

A place in a text, with what follows it, its line and its column. Columns count characters; a
carriage return with a line feed after it is one line break.

* `Cursor.skip`, `Cursor.breakLine`: moves over a character and over a line break.
* `Cursor.skipToLineEnd`: a move over blanks and a comment.
-/

namespace LineSieve.Settings.Yaml

def isBlank (c : Char) : Bool := c = ' ' || c = '\t'

def isBreak (c : Char) : Bool := c = '\n' || c = '\r'

/-- An indicator of collections in brackets and braces. -/
def isFlow (c : Char) : Bool := c = ',' || c = '[' || c = ']' || c = '{' || c = '}'

/-- A character of the names of tags. -/
def isWord (c : Char) : Bool := c.isAlphanum || c = '_' || c = '-'

structure Cursor where
  rest : List Char
  index : Nat
  line : Nat
  column : Nat
  /-- Only blanks come before it on its line. -/
  indenting : Bool

namespace Cursor

def ofText (cs : List Char) : Cursor := ⟨cs, 0, 0, 0, true⟩

def peek? (c : Cursor) : Option Char := c.rest.head?

def peekIs (c : Cursor) (ch : Char) : Bool := c.rest.head? == some ch

/-- The character `n` places ahead. -/
def ahead? (c : Cursor) (n : Nat) : Option Char := (c.rest.drop n).head?

def atEnd (c : Cursor) : Bool := c.rest.isEmpty

def atBlank (c : Cursor) : Bool := c.peek?.any isBlank

def atBreak (c : Cursor) : Bool := c.peek?.any isBreak

/-- A line break or the end comes next. -/
def atLineEnd (c : Cursor) : Bool := c.atEnd || c.atBreak

/-- A blank, a line break or the end comes `n` places ahead. -/
def gapAhead (c : Cursor) (n : Nat) : Bool :=
  match c.ahead? n with
  | none => true
  | some ch => isBlank ch || isBreak ch

/-- Moves past one character that is no line break. -/
def skip (c : Cursor) : Cursor :=
  match c.rest with
  | [] => c
  | ch :: rest =>
    { c with
      rest, index := c.index + 1, column := c.column + 1, indenting := c.indenting && isBlank ch }

def skipMany (n : Nat) (c : Cursor) : Cursor :=
  match n with
  | 0 => c
  | n + 1 => skipMany n c.skip

/-- Moves past a line break. -/
def breakLine (c : Cursor) : Cursor :=
  match c.rest with
  | '\r' :: '\n' :: rest => ⟨rest, c.index + 2, c.line + 1, 0, true⟩
  | _ :: rest => ⟨rest, c.index + 1, c.line + 1, 0, true⟩
  | [] => c

/-- Moves past the characters that `p` holds of, up to the end of the line. -/
def skipWhile (p : Char → Bool) (c : Cursor) : Cursor :=
  skipMany (c.rest.takeWhile fun ch => p ch && !isBreak ch).length c

/-- Moves past a comment. -/
def skipComment (c : Cursor) : Cursor := c.skipWhile fun _ => true

/-- The blanks before the end of a line or the next thing on it. -/
structure Blanks where
  tab : Bool
  space : Bool

/-- Moves past blanks and a comment. A comment must not touch what comes before it. -/
def skipToLineEnd (c : Cursor) : Option (Blanks × Cursor) :=
  let run := c.rest.takeWhile isBlank
  let blanks : Blanks := ⟨run.contains '\t', run.contains ' '⟩
  let after := skipMany run.length c
  if after.peekIs '#' then
    if run.isEmpty then none else some (blanks, after.skipComment)
  else some (blanks, after)

/-- Three of one character and a gap come next. -/
def atMark (ch : Char) (c : Cursor) : Bool := [ch, ch, ch].isPrefixOf c.rest && c.gapAhead 3

/-- The start or the end of a document is marked here. -/
def atDocumentMark (c : Cursor) : Bool := c.atMark '-' || c.atMark '.'

end Cursor

end LineSieve.Settings.Yaml
