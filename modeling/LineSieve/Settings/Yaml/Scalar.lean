import LineSieve.Settings.Reading
import LineSieve.Settings.Yaml.Cursor

/-!
# Scalars of YAML

Texts in their three forms: without quotes, in quotes, and in a block of lines of their own. The
lines of the first two are folded: one line break becomes a space, and of several all but the
first are kept.

* `Scalar.plain?`, `Scalar.quoted?`, `Scalar.block?`: read a scalar.
-/

namespace LineSieve.Settings.Yaml.Scalar

/-- The blanks and line breaks between two words of a scalar. -/
structure Gap where
  /-- The blanks before the first line break. -/
  blanks : List Char
  breaks : Nat

/-- Folds a gap. A gap whose first line break is escaped keeps all others. -/
def Gap.fold (g : Gap) (escaped : Bool) : List Char :=
  if escaped then List.replicate g.breaks '\n'
  else
    match g.breaks with
    | 0 => g.blanks
    | 1 => [' ']
    | n + 1 => List.replicate n '\n'

/-- Moves past a gap. Lines are indented with spaces: left of `indent` there is no tab, unless
`lenient` holds and the line is empty. `broken` holds after a line break. -/
def gap? (lenient : Bool) (indent : Int) :
    Nat → Bool → Gap → Cursor → Option (Gap × Cursor)
  | 0, _, _, _ => none
  | fuel + 1, broken, g, c =>
    match c.peek? with
    | some '\t' =>
      if !broken then gap? lenient indent fuel broken { g with blanks := g.blanks ++ ['\t'] } c.skip
      else if c.column < indent then
        if lenient then do
          let (_, c) ← c.skipToLineEnd
          if c.atLineEnd then gap? lenient indent fuel broken g c else none
        else none
      else gap? lenient indent fuel broken g c.skip
    | some ' ' =>
      if broken then gap? lenient indent fuel broken g c.skip
      else gap? lenient indent fuel broken { g with blanks := g.blanks ++ [' '] } c.skip
    | some ch =>
      if isBreak ch then
        gap? lenient indent fuel true { g with breaks := g.breaks + 1 } c.breakLine
      else some (g, c)
    | none => some (g, c)

def fuel (c : Cursor) : Nat := c.rest.length + 1

/-! ## Without quotes -/

/-- The next character can be part of a scalar without quotes. -/
def atPlain (inFlow : Bool) (c : Cursor) : Bool :=
  match c.peek? with
  | none => false
  | some ':' => !(c.gapAhead 1 || (inFlow && (c.ahead? 1).any isFlow))
  | some ch => !isBlank ch && !isBreak ch && !(inFlow && isFlow ch)

/-- Takes characters of a scalar without quotes, which are collected in reverse. -/
def plainRun (inFlow : Bool) : Nat → List Char → Cursor → List Char × Cursor
  | 0, before, c => (before, c)
  | fuel + 1, before, c =>
    match c.peek? with
    | none => (before, c)
    | some ch =>
      if atPlain inFlow c then plainRun inFlow fuel (ch :: before) c.skip else (before, c)

/-- Reads on a scalar without quotes. `before` is in reverse, and `between` stands before the next
word if there is one. -/
def plainFrom (inFlow : Bool) (indent : Int) :
    Nat → List Char → List Char → Cursor → Option (List Char × Cursor)
  | 0, _, _, _ => none
  | fuel + 1, before, between, c =>
    if (c.indenting && c.atDocumentMark) || c.peekIs '#' then some (before, c)
    else if inFlow && c.peekIs '-' && (c.ahead? 1).any isFlow then none
    else
      let (run, after) := plainRun inFlow (c.rest.length + 1) [] c
      let read := if run.isEmpty then before else run ++ (between.reverse ++ before)
      if !after.atBlank && !after.atBreak then some (read, after)
      else do
        let (g, after) ← gap? true indent (after.rest.length + 1) after.indenting ⟨[], 0⟩ after
        if !inFlow && after.column < indent then some (read, after)
        else plainFrom inFlow indent fuel read (g.fold false) after

/-- Reads a scalar without quotes, of which lines after the first are indented by `indent`. -/
def plain? (inFlow : Bool) (indent : Int) (c : Cursor) : Option (String × Cursor) := do
  if inFlow && c.column < indent then none
  let (read, after) ← plainFrom inFlow indent (fuel c) [] [] c
  if read.isEmpty then none else return (String.ofList read.reverse, after)

/-! ## In quotes -/

/-- The character of an escape and the number of digits that give it otherwise. -/
def escape? (ch : Char) : Option (Char ⊕ Nat) :=
  match ch with
  | '0' => some (.inl '\x00')
  | 'a' => some (.inl '\x07')
  | 'b' => some (.inl '\x08')
  | 't' | '\t' => some (.inl '\t')
  | 'n' => some (.inl '\n')
  | 'v' => some (.inl '\x0b')
  | 'f' => some (.inl '\x0c')
  | 'r' => some (.inl '\r')
  | 'e' => some (.inl '\x1b')
  | ' ' => some (.inl ' ')
  | '"' => some (.inl '"')
  | '/' => some (.inl '/')
  | '\\' => some (.inl '\\')
  | 'N' => some (.inl '\u0085')
  | '_' => some (.inl '\u00a0')
  | 'L' => some (.inl '\u2028')
  | 'P' => some (.inl '\u2029')
  | 'x' => some (.inr 2)
  | 'u' => some (.inr 4)
  | 'U' => some (.inr 8)
  | _ => none

/-- Reads an escape. -/
def escaped? (c : Cursor) : Option (Char × Cursor) := do
  match ← escape? (← c.ahead? 1) with
  | .inl ch => return (ch, Cursor.skipMany 2 c)
  | .inr n =>
    let digits := (c.rest.drop 2).take n
    if digits.length ≠ n then none
    return (← charOf? (← digitsValue? 16 digits), Cursor.skipMany (2 + n) c)

/-- Takes characters of a word in quotes, which are collected in reverse. Tells whether an escaped
line break ended the word. -/
def quotedRun? (quote : Char) :
    Nat → List Char → Cursor → Option (List Char × Bool × Cursor)
  | 0, _, _ => none
  | fuel + 1, before, c =>
    match c.peek? with
    | none => some (before, false, c)
    | some ch =>
      if isBlank ch || isBreak ch then some (before, false, c)
      else if ch = quote then
        if quote = '\'' && c.ahead? 1 = some '\'' then
          quotedRun? quote fuel ('\'' :: before) (Cursor.skipMany 2 c)
        else some (before, false, c)
      else if ch = '\\' && quote = '"' then
        if (c.ahead? 1).any isBreak then some (before, true, c.skip.breakLine)
        else do
          let (ch, c) ← escaped? c
          quotedRun? quote fuel (ch :: before) c
      else quotedRun? quote fuel (ch :: before) c.skip

/-- Reads on a scalar in quotes up to its second quote. -/
def quotedFrom (quote : Char) (indent : Int) :
    Nat → List Char → Cursor → Option (List Char × Cursor)
  | 0, _, _ => none
  | fuel + 1, before, c =>
    if (c.column = 0 && c.atDocumentMark) || c.atEnd || c.column < indent then none
    else do
      let (read, escaped, after) ← quotedRun? quote (c.rest.length + 1) before c
      if after.peekIs quote then some (read, after.skip)
      else
        let (g, after) ← gap? false indent (after.rest.length + 1) escaped ⟨[], 0⟩ after
        quotedFrom quote indent fuel ((g.fold escaped).reverse ++ read) after

/-- Reads a scalar in quotes. -/
def quoted? (quote : Char) (indent : Int) (c : Cursor) : Option (String × Cursor) := do
  let (read, after) ← quotedFrom quote indent (fuel c) [] c.skip
  return (String.ofList read.reverse, after)

/-! ## In a block -/

/-- What becomes of the line breaks at the end of a block. -/
inductive Chomping where
  | strip
  | clip
  | keep
  deriving DecidableEq

def chomping? (c : Cursor) : Option Chomping :=
  match c.peek? with
  | some '+' => some .keep
  | some '-' => some .strip
  | _ => none

/-- An indentation of one digit, which is not zero. -/
def increment? (c : Cursor) : Option (Nat × Cursor) :=
  match c.peek? with
  | some ch =>
    if ch = '0' then none
    else if ch.isDigit then some (ch.toNat - '0'.toNat, c.skip)
    else some (0, c)
  | none => some (0, c)

/-- Reads the signs of a block after its first one: chomping and indentation in any order. -/
def signs? (c : Cursor) : Option (Chomping × Nat × Cursor) :=
  match chomping? c with
  | some chomping => do
    let (n, c) ← increment? c.skip
    return (chomping, n, c)
  | none => do
    let (n, c) ← increment? c
    match if n = 0 then none else chomping? c with
    | some chomping => return (chomping, n, c.skip)
    | none => return (.clip, n, c)

/-- Moves past the indentation of a line of a block and past lines that have nothing else. Counts
these. -/
def margin (indent : Nat) : Nat → Nat → Cursor → Nat × Cursor
  | 0, breaks, c => (breaks, c)
  | fuel + 1, breaks, c =>
    let spaces := (c.rest.takeWhile (· == ' ')).length
    let c := Cursor.skipMany (min spaces (indent - c.column)) c
    if c.atBreak then margin indent fuel (breaks + 1) c.breakLine else (breaks, c)

/-- Moves to the first line of a block that has more than spaces. Counts the lines before it and
finds the greatest width of any of their indentations. -/
def firstMargin : Nat → Nat → Nat → Cursor → Nat × Nat × Cursor
  | 0, widest, breaks, c => (widest, breaks, c)
  | fuel + 1, widest, breaks, c =>
    let c := c.skipWhile (· == ' ')
    let widest := max widest c.column
    if c.atBreak then firstMargin fuel widest (breaks + 1) c.breakLine else (widest, breaks, c)

/-- The lines of a block that are read so far. -/
structure Block where
  /-- The text in reverse, without its last line break. -/
  text : List Char
  /-- A line break comes after the text. -/
  ended : Bool
  /-- How many lines are empty after that. -/
  empty : Nat
  /-- The last line began with a blank. -/
  blankBefore : Bool

def newlines (n : Nat) : List Char := List.replicate n '\n'

/-- Reads the lines of a block that are indented by `indent`. -/
def blockFrom (literal : Bool) (indent : Nat) : Nat → Block → Cursor → Block × Cursor
  | 0, b, c => (b, c)
  | fuel + 1, b, c =>
    if c.column ≠ indent || c.atEnd || (indent = 0 && c.atMark '.') then (b, c)
    else
      let blank := c.atBlank
      let joint :=
        if !literal && b.ended && !b.blankBefore && !blank then
          if b.empty = 0 then [' '] else newlines b.empty
        else newlines ((if b.ended then 1 else 0) + b.empty)
      let line := c.rest.takeWhile fun ch => !isBreak ch
      let text := line.reverse ++ (joint ++ b.text)
      let c := Cursor.skipMany line.length c
      if c.atEnd then (⟨text, false, 0, blank⟩, c)
      else
        let (empty, c) := margin indent (c.rest.length + 1) 0 c.breakLine
        blockFrom literal indent fuel ⟨text, true, empty, blank⟩ c

/-- Reads a scalar in a block, where the collection around it is indented by `outer`. -/
def block? (literal : Bool) (outer : Int) (c : Cursor) : Option (String × Cursor) := do
  let (chomping, increment, c) ← signs? c.skip
  let (_, c) ← c.skipToLineEnd
  if !c.atLineEnd then none
  let broken := c.atBreak
  let c := if broken then c.breakLine else c
  if c.peekIs '\t' then none
  let (indent, empty, c) :=
    if increment = 0 then
      let (widest, empty, c) := firstMargin (fuel c) 0 0 c
      (max (max widest (outer + 1).toNat) (if 0 < outer then 1 else 0), empty, c)
    else
      let indent := if 0 ≤ outer then outer.toNat + increment else increment
      let (empty, c) := margin indent (fuel c) 0 c
      (indent, empty, c)
  if c.atEnd then
    let text :=
      if chomping = .strip || !broken then []
      else if chomping = .keep && empty ≠ 0 then newlines empty
      else ['\n']
    return (String.ofList text, c)
  else if c.column < indent && outer < c.column then none
  else
    let (b, c) := blockFrom literal indent (fuel c) ⟨[], false, empty, false⟩ c
    let last := if chomping ≠ .strip && b.ended then ['\n'] else []
    let final :=
      if chomping ≠ .strip && c.atEnd && max indent 1 ≤ c.column then ['\n'] else []
    let kept := if chomping = .keep then newlines b.empty else []
    return (String.ofList (b.text.reverse ++ last ++ final ++ kept), c)

end LineSieve.Settings.Yaml.Scalar
