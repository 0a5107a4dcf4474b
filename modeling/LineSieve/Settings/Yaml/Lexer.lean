import LineSieve.Settings.Yaml.Scalar
import LineSieve.Settings.Yaml.Token

/-!
# Splitting YAML into tokens

Only a colon shows that what comes before it was a key, so the lexer remembers where a key may have
begun and puts the tokens of the key and of its mapping there when the colon comes. Outside of
brackets such a key is on one line and at most 1024 characters long.

* `Yaml.tokens?`: the tokens of a text.
-/

namespace LineSieve.Settings.Yaml

/-- A place where a key may have begun. -/
structure PossibleKey where
  possible : Bool
  /-- Nothing but a key can stand there. -/
  required : Bool
  /-- How many tokens come before it. -/
  tokens : Nat
  index : Nat
  line : Nat
  column : Nat

def PossibleKey.no : PossibleKey := ⟨false, false, 0, 0, 0, 0⟩

/-- An indentation, with the one outside of it. One that closes is that of a block. -/
structure Indentation where
  outer : Int
  closes : Bool

structure Lexer where
  cursor : Cursor
  tokens : Array Token
  /-- The last token is an anchor or a tag at the left margin. -/
  marginal : Bool
  keyAllowed : Bool
  key : PossibleKey
  /-- The possible keys outside of the brackets around this place, innermost first. -/
  outerKeys : List PossibleKey
  indent : Int
  indents : List Indentation
  /-- Where a colon may touch the value after it. -/
  adjacentAt : Nat
  /-- The mapping that a key belongs to has a token for its start. -/
  mappingStarted : Bool
  /-- For each pair of brackets around this place, whether an entry of it is a mapping without
  braces. -/
  bareMappings : List Bool

namespace Lexer

def start (cs : List Char) : Lexer :=
  ⟨Cursor.ofText cs, #[], false, true, .no, [], -1, [], 0, false, []⟩

/-- Brackets nest at most this deep. -/
def flowLimit : Nat := 255

def inFlow (l : Lexer) : Bool := !l.outerKeys.isEmpty

def push (t : Token) (l : Lexer) : Lexer :=
  { l with tokens := l.tokens.push t, marginal := false }

/-- Puts a token in front of others. -/
def insert (n : Nat) (t : Token) (l : Lexer) : Lexer :=
  { l with tokens := l.tokens.insertIdxIfInBounds n t }

def move (c : Cursor) (l : Lexer) : Lexer := { l with cursor := c }

def allowKey (b : Bool) (l : Lexer) : Lexer := { l with keyAllowed := b }

/-- Moves past blanks and a comment. -/
def toLineEnd (l : Lexer) : Option Lexer := do
  let (_, c) ← l.cursor.skipToLineEnd
  return l.move c

/-! ## Possible keys -/

/-- Notes that a key may begin here. -/
def saveKey (l : Lexer) : Lexer :=
  let c := l.cursor
  if l.keyAllowed then
    let required := !l.inFlow && l.indent = c.column && l.indents.head?.any (·.closes)
    { l with key := ⟨true, required, l.tokens.size, c.index, c.line, c.column⟩ }
  else l

/-- Gives up the possible key, unless it has to be one. -/
def dropKey (l : Lexer) : Option Lexer :=
  if l.key.possible && l.key.required then none
  else some { l with key := { l.key with possible := false } }

/-- Gives up a possible key that is on an earlier line or too long. -/
def dropStaleKey (l : Lexer) : Option Lexer :=
  let c := l.cursor
  if l.key.possible && !l.inFlow && (l.key.line < c.line || l.key.index + 1024 < c.index) then
    l.dropKey
  else some l

/-! ## Indentation -/

/-- Leaves the indentations to the right of a column, with a token for the end of each block. -/
def unroll (column : Int) (l : Lexer) : Lexer :=
  let rec leave : List Indentation → Int → Array Token → Lexer
    | [], indent, tokens => { l with indents := [], indent, tokens }
    | i :: is, indent, tokens =>
      if column < indent then leave is i.outer (if i.closes then tokens.push .blockEnd else tokens)
      else { l with indents := i :: is, indent, tokens }
  if l.inFlow then l
  else
    let left := leave l.indents l.indent l.tokens
    { left with marginal := l.marginal && left.tokens.size = l.tokens.size }

/-- Opens a block at a column, unless one is open there; its token goes in front of the token with
number `n`. -/
def roll (column : Nat) (n : Nat) (t : Token) (l : Lexer) : Lexer :=
  if l.inFlow then l
  else
    let l :=
      match l.indents with
      | i :: is =>
        if l.indent ≤ (column : Int) && !i.closes then { l with indent := i.outer, indents := is }
        else l
      | [] => l
    if l.indent < (column : Int) then
      insert n t { l with indents := ⟨l.indent, true⟩ :: l.indents, indent := column }
    else l

/-- Indents by one column what belongs to an entry of a block. -/
def rollOne (l : Lexer) : Lexer :=
  if !l.inFlow && l.indents.head?.any (·.closes) then
    { l with indents := ⟨l.indent, false⟩ :: l.indents, indent := l.indent + 1 }
  else l

/-- Leaves the indentations inside of the innermost block. -/
def unrollOnes (l : Lexer) : Lexer :=
  let rec leave : List Indentation → Int → Lexer
    | [], indent => { l with indents := [], indent }
    | i :: is, indent =>
      if i.closes then { l with indents := i :: is, indent } else leave is i.outer
  leave l.indents l.indent

/-! ## Between tokens -/

/-- Moves to the next token. -/
def toNext : Nat → Lexer → Option Lexer
  | 0, _ => none
  | fuel + 1, l =>
    let c := l.cursor
    match c.peek? with
    | some '\t' =>
      if !l.indents.isEmpty && c.indenting && c.column < l.indent then do
        let l ← l.toLineEnd
        if l.cursor.atLineEnd then toNext fuel l else none
      else toNext fuel (l.move c.skip)
    | some ' ' => toNext fuel (l.move c.skip)
    | some '#' => toNext fuel (l.move c.skipComment)
    | some ch =>
      if isBreak ch then
        toNext fuel { l with cursor := c.breakLine, keyAllowed := l.keyAllowed || !l.inFlow }
      else some l
    | none => some l

def toNextToken (l : Lexer) : Option Lexer := toNext (l.cursor.rest.length + 1) l

/-- Moves past spaces, comments and line breaks after a question mark, of which there must be
one. -/
def pastKeySign : Nat → Bool → Lexer → Option Lexer
  | 0, _, _ => none
  | fuel + 1, passed, l =>
    let c := l.cursor
    match c.peek? with
    | some ' ' => pastKeySign fuel true (l.move c.skip)
    | some '#' => pastKeySign fuel passed (l.move c.skipComment)
    | some '\t' => none
    | some ch =>
      if isBreak ch then
        pastKeySign fuel true
          { l with cursor := c.breakLine, keyAllowed := l.keyAllowed || !l.inFlow }
      else if passed then some l else none
    | none => if passed then some l else none

/-! ## Tokens -/

def streamEnd (l : Lexer) : Option Lexer := do
  if (l.key :: l.outerKeys).any fun k => k.possible && k.required then none
  return (l.unroll (-1)).push .streamEnd

/-- The mark of the start or the end of a document. -/
def documentMark (t : Token) (l : Lexer) : Option Lexer := do
  let l ← (l.unroll (-1)).dropKey
  let l := (l.allowKey false).push t
  return l.move (Cursor.skipMany 3 l.cursor)

/-- A line that begins with a percent sign. -/
def directive (l : Lexer) : Option Lexer := do
  let l ← (l.unroll (-1)).dropKey
  let line := l.cursor.rest.drop 1 |>.takeWhile fun ch => !isBreak ch
  let words := (String.ofList line).splitOn " " |>.filter (· ≠ "")
  let words := words.takeWhile fun w => w.toList.head? ≠ some '#'
  let l := l.move (Cursor.skipMany (line.length + 1) l.cursor)
  return (l.allowKey false).push (.directive (words.headD "") (words.drop 1))

def flowStart (t : Token) (l : Lexer) : Option Lexer := do
  let l := l.saveKey.rollOne
  if flowLimit ≤ l.outerKeys.length then none
  let l := { l with outerKeys := l.key :: l.outerKeys, key := .no, keyAllowed := true }
  let l := if t = .flowMappingStart then { l with mappingStarted := true }
    else { l with bareMappings := false :: l.bareMappings }
  ((l.move l.cursor.skip).push t).toLineEnd

/-- Ends the mapping without braces that an entry in brackets is. -/
def endBareMapping (l : Lexer) : Lexer :=
  match l.bareMappings with
  | true :: rest =>
    { l with mappingStarted := false, bareMappings := false :: rest }.push .flowMappingEnd
  | _ => l

def flowEnd (t : Token) (l : Lexer) : Option Lexer := do
  let l ← l.dropKey
  let l := match l.outerKeys with
    | key :: keys => { l with key, outerKeys := keys }
    | [] => l
  let l := l.allowKey false
  let l := if t = .flowSequenceEnd then
      let l := l.endBareMapping
      { l with bareMappings := l.bareMappings.drop 1 }
    else l
  let l ← (l.move l.cursor.skip).toLineEnd
  let l := if l.inFlow then { l with adjacentAt := l.cursor.index } else l
  return l.push t

def comma (l : Lexer) : Option Lexer := do
  let l ← l.dropKey
  let l := (l.allowKey true).endBareMapping
  ((l.move l.cursor.skip).push .comma).toLineEnd

/-- A dash before an entry of a block. -/
def entry (l : Lexer) : Option Lexer := do
  if l.inFlow || !l.keyAllowed then none
  if l.marginal && l.cursor.column = 0 && -1 < l.indent then none
  let column := l.cursor.column
  let l := (l.move l.cursor.skip).roll column l.tokens.size .sequenceStart
  let (blanks, c) ← l.cursor.skipToLineEnd
  if blanks.tab && c.peekIs '-' && c.gapAhead 1 then none
  let l := l.move c
  let l := if c.atBreak || c.peek?.any isFlow then l.rollOne else l
  let l ← l.dropKey
  return (l.allowKey true).push .entry

/-- A question mark before a key. -/
def keySign (l : Lexer) : Option Lexer := do
  let column := l.cursor.column
  let l ←
    if l.inFlow then some { l with mappingStarted := true }
    else if !l.keyAllowed then none
    else some (l.roll column l.tokens.size .mappingStart)
  let l ← l.dropKey
  let l := l.allowKey !l.inFlow
  let l ← pastKeySign (l.cursor.rest.length + 1) false (l.move l.cursor.skip)
  return l.push .key

/-- A colon before a value. -/
def valueSign (l : Lexer) : Option Lexer := do
  let key := l.key
  let place := l.cursor
  let bare := !l.bareMappings.isEmpty && !l.mappingStarted
  let l := if bare then { l with bareMappings := true :: l.bareMappings.drop 1 } else l
  let l := l.move l.cursor.skip
  let l ←
    if l.cursor.peekIs '\t' then do
      let (blanks, c) ← l.cursor.skipToLineEnd
      if !blanks.space && c.peek?.any isWord then none else some (l.move c)
    else some l
  let l ←
    if key.possible then do
      let l := l.insert key.tokens .key
      if bare && key.line < place.line then none
      let l := if bare then l.insert key.tokens .flowMappingStart else l
      let l := (l.roll key.column key.tokens .mappingStart).rollOne
      some { l with key := { l.key with possible := false }, keyAllowed := false }
    else do
      let l := if bare then l.push .flowMappingStart else l
      if !l.inFlow && !l.keyAllowed then none
      let l := (l.roll place.column l.tokens.size .mappingStart).rollOne
      some (l.allowKey !l.inFlow)
  return l.push .value

/-- A colon in brackets that touches what comes after it. -/
def touchingValueSign (l : Lexer) : Option Lexer :=
  if l.cursor.index ≠ l.adjacentAt && (l.cursor.ahead? 1).any (fun ch => ch = '[' || ch = '{') then
    none
  else l.valueSign

/-- An anchor or an alias. -/
def anchor (named : String → Token) (isAlias : Bool) (l : Lexer) : Option Lexer := do
  let atMargin := l.cursor.column = 0
  let l := l.saveKey.allowKey false
  let c := l.cursor.skip
  let name := c.rest.takeWhile fun ch => !isBlank ch && !isBreak ch && !isFlow ch
  if name.isEmpty then none
  let l := (l.move (Cursor.skipMany name.length c)).push (named (String.ofList name))
  return { l with marginal := atMargin && !isAlias }

/-- A character of the suffix of a tag. -/
def isTagChar (ch : Char) : Bool := isWord ch || "#;/?:@&=+$.~*'()%".toList.contains ch

def tag (l : Lexer) : Option Lexer := do
  let atMargin := l.cursor.column = 0
  let l := l.saveKey.allowKey false
  let c := l.cursor.skip
  let (t, c) ←
    if c.peekIs '<' then do
      let c := c.skip
      let name := c.rest.takeWhile fun ch => isTagChar ch || "!,[]".toList.contains ch
      let c := Cursor.skipMany name.length c
      if c.peekIs '>' then some (Token.tag "" (String.ofList name), c.skip) else none
    else do
      let word := c.rest.takeWhile isWord
      let after := Cursor.skipMany word.length c
      if after.peekIs '!' then do
        let suffix := after.skip.rest.takeWhile isTagChar
        if suffix.isEmpty then none
        some (Token.tag (String.ofList ('!' :: word ++ ['!'])) (String.ofList suffix),
          Cursor.skipMany suffix.length after.skip)
      else do
        let suffix := c.rest.takeWhile isTagChar
        let t := if suffix.isEmpty then Token.tag "" "!" else Token.tag "!" (String.ofList suffix)
        some (t, Cursor.skipMany suffix.length c)
  if c.gapAhead 0 || (l.inFlow && c.peek?.any isFlow) then
    return { (l.move c).push t with marginal := atMargin }
  else none

def plainScalar (l : Lexer) : Option Lexer := do
  let l := (l.saveKey.allowKey false).unrollOnes
  let (text, c) ← Scalar.plain? l.inFlow (l.indent + 1) l.cursor
  let l := (l.move c).push (.scalar true text)
  return if c.indenting then l.allowKey true else l

def quotedScalar (quote : Char) (l : Lexer) : Option Lexer := do
  let line := l.cursor.line
  let l := l.saveKey.allowKey false
  let (text, c) ← Scalar.quoted? quote l.indent l.cursor
  let (_, c) ← c.skipToLineEnd
  let proper :=
    c.atLineEnd || (c.peekIs ':' && (l.inFlow || line = c.line)) ||
      (l.inFlow && (c.peekIs ',' || c.peekIs '}' || c.peekIs ']'))
  if !proper then none
  let l ← (l.move c).toNextToken
  return { l with adjacentAt := l.cursor.index }.push (.scalar false text)

def blockScalar (literal : Bool) (l : Lexer) : Option Lexer := do
  let l := (l.saveKey.allowKey true).unrollOnes
  let (text, c) ← Scalar.block? literal l.indent l.cursor
  return (l.move c).push (.scalar false text)

/-- Reads the next token. -/
def next (l : Lexer) : Option Lexer := do
  let l ← (← l.toNextToken).dropStaleKey
  let l := l.unroll l.cursor.column
  let c := l.cursor
  match c.peek? with
  | none => l.streamEnd
  | some ch =>
    if c.column = 0 && ch = '%' then l.directive
    else if c.column = 0 && c.atMark '-' then l.documentMark .documentStart
    else if c.column = 0 && c.atMark '.' then do
      let l ← (← l.documentMark .documentEnd).toLineEnd
      if l.cursor.atLineEnd then some l else none
    else if c.column < l.indent then none
    else
      match ch with
      | '[' => l.flowStart .flowSequenceStart
      | '{' => l.flowStart .flowMappingStart
      | ']' => l.flowEnd .flowSequenceEnd
      | '}' => l.flowEnd .flowMappingEnd
      | ',' => l.comma
      | '*' => l.anchor .alias true
      | '&' => l.anchor .anchor false
      | '!' => l.tag
      | '\'' => l.quotedScalar '\''
      | '"' => l.quotedScalar '"'
      | '-' => if c.gapAhead 1 then l.entry else l.plainScalar
      | '?' => if c.gapAhead 1 then l.keySign else l.plainScalar
      | ':' =>
        if c.gapAhead 1 then l.valueSign
        else if l.inFlow && ((c.ahead? 1).any isFlow || c.index = l.adjacentAt) then
          l.touchingValueSign
        else l.plainScalar
      | '|' => if l.inFlow then l.plainScalar else l.blockScalar true
      | '>' => if l.inFlow then l.plainScalar else l.blockScalar false
      | '%' | '@' => none
      | ch => if ch.toNat = 0x60 then none else l.plainScalar

/-- Reads tokens up to the end of the stream. -/
def run : Nat → Lexer → Option (Array Token)
  | 0, _ => none
  | fuel + 1, l => do
    let l ← l.next
    if l.tokens.back? = some .streamEnd then return l.tokens else run fuel l

end Lexer

/-- The tokens of a text. -/
def tokens? (text : String) : Option (List Token) :=
  let cs := text.toList.takeWhile (· != '\x00')
  (Lexer.run (cs.length + 2) (Lexer.start cs)).map Array.toList

end LineSieve.Settings.Yaml
