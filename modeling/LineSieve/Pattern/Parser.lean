import LineSieve.Pattern.Reader

/-!
# Parsing patterns

The tree of a pattern, or the first fault in it.

The reader goes once over the pattern. What it is inside of is kept on explicit stacks: one of open
groups with the branches read before them, and within a class one of open brackets and pending
operators. Each round of a loop reads at least one character, so the number of characters left
bounds the rounds.

* `Parser.parse`: the tree of a pattern.
* `Parser.nestLimit`: how deep groups, repetitions, sequences and classes may nest.
-/

namespace LineSieve.Pattern

namespace Parser

open Reading

/-! ## Numbers and escapes -/

/-- Reads the decimal digits that come next, last first. -/
def digits : (fuel : Nat) → (read : List Char) → Reading (List Char)
  | 0, read => return read
  | fuel + 1, read => do
    match ← peek? with
    | some c =>
      if c.isDigit then
        let _ ← bumpPastBlanks
        digits fuel (c :: read)
      else return read
    | none => return read

/-- Moves past blanks, whether they are ignored or not. -/
def whiteSpace : (fuel : Nat) → Reading Unit
  | 0 => return
  | fuel + 1 => do
    match ← peek? with
    | some c =>
      if Unicode.whiteSpace.contains c then
        let _ ← bump
        whiteSpace fuel
      else return
    | none => return

/-- Numbers of repetitions lie below this bound. -/
def decimalBound : Nat := 0x100000000

/-- Reads a decimal number between blanks. The fault, if there is one, is for the caller to
raise. -/
def decimal : Reading (Except Fault Nat) := do
  whiteSpace (← remaining)
  let start ← place
  let read ← digits (← remaining) []
  let span ← since start
  whiteSpace (← remaining)
  if read.isEmpty then return .error ⟨.repetitionCountDecimalEmpty, span, none⟩
  let n := read.foldr (fun c n => 10 * n + (c.toNat - '0'.toNat)) 0
  if n < decimalBound then return .ok n else return .error ⟨.decimalInvalid, span, none⟩

def hexValue? (c : Char) : Option Nat :=
  if c.isDigit then some (c.toNat - '0'.toNat)
  else if 'a' ≤ c && c ≤ 'f' then some (c.toNat - 'a'.toNat + 10)
  else if 'A' ≤ c && c ≤ 'F' then some (c.toNat - 'A'.toNat + 10)
  else none

def char? (n : Nat) : Option Char := if n.isValidChar then some (Char.ofNat n) else none

/-- Reads `count` hexadecimal digits more; `n` is the number read so far. -/
def hexDigits : (count : Nat) → (n : Nat) → Reading Nat
  | 0, n => return n
  | count + 1, n => do
    match (← peek?).bind hexValue? with
    | none => fail .escapeHexInvalidDigit (← charSpan)
    | some d =>
      let more ← bumpPastBlanks
      if count ≠ 0 && !more then fail .escapeUnexpectedEnd (← here)
      hexDigits count (16 * n + d)

/-- Reads hexadecimal digits up to the closing brace, which comes next in the end. -/
def bracedDigits : (fuel : Nat) → (read : List Nat) → Reading (List Nat)
  | 0, read => return read
  | fuel + 1, read => do
    if !(← bumpPastBlanks) then return read
    match ← peek? with
    | some '\x7d' => return read
    | some c =>
      match hexValue? c with
      | none => fail .escapeHexInvalidDigit (← charSpan)
      | some d => bracedDigits fuel (d :: read)
    | none => return read

/-- Reads the rest of an escape by code point, from the letter `x`, `u` or `U` on. -/
def hexEscape (start : Position) (letter : Char) : Reading Literal := do
  if !(← bumpPastBlanks) then fail .escapeUnexpectedEnd (← here)
  if ← peekIs '\x7b' then
    let brace ← place
    let first := (← charSpan).stop
    let read ← bracedDigits ((← remaining) + 1) []
    if ← atEnd then fail .escapeUnexpectedEnd (← since brace)
    let last ← place
    let _ ← bumpPastBlanks
    if read.isEmpty then fail .escapeHexEmpty (← since brace)
    match char? (read.foldr (fun d n => 16 * n + d) 0) with
    | none => fail .escapeHexInvalid ⟨first, last⟩
    | some c => return ⟨← since start, c, false⟩
  else
    let first ← place
    let count := if letter = 'x' then 2 else if letter = 'u' then 4 else 8
    match char? (← hexDigits count 0) with
    | none => fail .escapeHexInvalid (← since first)
    | some c => return ⟨← since start, c, letter = 'x'⟩

/-- Splits at the first occurrence of `mark`. -/
def cutAt (mark : List Char) : List Char → Option (List Char × List Char)
  | [] => none
  | c :: cs =>
    if mark.isPrefixOf (c :: cs) then some ([], (c :: cs).drop mark.length)
    else (cutAt mark cs).map fun (before, after) => (c :: before, after)

def queryOf (name : List Char) : PropertyQuery :=
  let text := String.ofList
  match cutAt ['!', '='] name with
  | some (n, v) => .valued (text n) (text v) true
  | none =>
    match cutAt [':'] name with
    | some (n, v) => .valued (text n) (text v) false
    | none =>
      match cutAt ['='] name with
      | some (n, v) => .valued (text n) (text v) false
      | none => .named (text name)

/-- Reads the name of a property up to the closing brace, last character first. -/
def propertyName : (fuel : Nat) → (read : List Char) → Reading (List Char)
  | 0, read => return read
  | fuel + 1, read => do
    if !(← bumpPastBlanks) then return read
    match ← peek? with
    | some '\x7d' => return read
    | some c => propertyName fuel (c :: read)
    | none => return read

/-- Reads the rest of a class by property, from its letter on. -/
def propertyQuery : Reading PropertyQuery := do
  if !(← bumpPastBlanks) then fail .escapeUnexpectedEnd (← here)
  match ← peek? with
  | some '\x7b' =>
    let name ← propertyName ((← remaining) + 1) []
    if ← atEnd then fail .escapeUnexpectedEnd (← here)
    let _ ← bump
    return queryOf name.reverse
  | some '\\' => fail .propertyClassInvalid (← charSpan)
  | some c =>
    let _ ← bumpPastBlanks
    return .named (String.ofList [c])
  | none => fail .escapeUnexpectedEnd (← here)

def isBoundaryChar (c : Char) : Bool := c.isAlpha || c = '-'

def boundaryName : (fuel : Nat) → (read : List Char) → Reading (List Char)
  | 0, read => return read
  | fuel + 1, read => do
    match ← peek? with
    | some c =>
      if isBoundaryChar c then
        let _ ← bumpPastBlanks
        boundaryName fuel (c :: read)
      else return read
    | none => return read

/-- Reads the name in braces that makes a word boundary a special one. Braces that begin with
anything else than a letter or a minus are left for a repetition. -/
def specialBoundary? (start : Position) : Reading (Option Assertion) := do
  let before ← get
  let brace ← place
  if !(← bumpPastBlanks) then fail .specialBoundaryUnexpectedEnd (← since start)
  let first ← place
  if !((← peek?).any isBoundaryChar) then
    set before
    return none
  let name ← boundaryName (← remaining) []
  if !(← peekIs '\x7d') then fail .specialBoundaryUnclosed (← since brace)
  let last ← place
  let _ ← bump
  match String.ofList name.reverse with
  | "start" => return some .wordStart
  | "end" => return some .wordEnd
  | "start-half" => return some .wordStartHalf
  | "end-half" => return some .wordEndHalf
  | _ => fail .specialBoundaryUnrecognized ⟨first, last⟩

/-- Characters with a meaning of their own in patterns. -/
def isMeta (c : Char) : Bool :=
  ['\\', '.', '+', '*', '?', '(', ')', '|', '[', ']', '\x7b', '\x7d', '^', '$', '#', '&', '-',
    '~'].contains c

/-- A backslash before this character makes it stand for itself. -/
def isEscapable (c : Char) : Bool :=
  isMeta c || (c.toNat < 128 && !c.isAlphanum && c != '<' && c != '>')

def controlEscape? : Char → Option Char
  | 'a' => some '\x07'
  | 'f' => some '\x0c'
  | 't' => some '\t'
  | 'n' => some '\n'
  | 'r' => some '\r'
  | 'v' => some '\x0b'
  | _ => none

def assertionEscape? : Char → Option Assertion
  | 'A' => some .startText
  | 'z' => some .endText
  | 'B' => some .notWordBoundary
  | '<' => some .wordStart
  | '>' => some .wordEnd
  | _ => none

def perlEscape? : Char → Option (PerlClass × Bool)
  | 'd' => some (.digit, false)
  | 'D' => some (.digit, true)
  | 's' => some (.space, false)
  | 'S' => some (.space, true)
  | 'w' => some (.word, false)
  | 'W' => some (.word, true)
  | _ => none

/-- Reads an escape, from its backslash on. -/
def escape : Reading Tree := do
  let start ← place
  if !(← bump) then fail .escapeUnexpectedEnd (← since start)
  let c := (← peek?).getD '\\'
  if c.isDigit then fail .backreference ⟨start, (← charSpan).stop⟩
  if c = 'x' || c = 'u' || c = 'U' then return .literal (← hexEscape start c)
  if c = 'p' || c = 'P' then
    let query ← propertyQuery
    return .property (← since start) query (c = 'P')
  let _ ← bump
  let span ← since start
  match perlEscape? c with
  | some (cls, negated) => return .perl span cls negated
  | none =>
    if isEscapable c then return .literal ⟨span, c, false⟩
    match controlEscape? c with
    | some c => return .literal ⟨span, c, false⟩
    | none =>
      if c = 'b' then
        if ← peekIs '\x7b' then
          match ← specialBoundary? start with
          | some kind => return .assertion (← since start) kind
          | none => return .assertion span .wordBoundary
        return .assertion span .wordBoundary
      match assertionEscape? c with
      | some kind => return .assertion span kind
      | none => fail .escapeUnrecognized span

/-- Reads one character or escape that matches on its own. -/
def primitive : Reading Tree := do
  let c := (← peek?).getD ' '
  if c = '\\' then escape
  else
    let span ← charSpan
    let _ ← bump
    match c with
    | '.' => return .dot span
    | '^' => return .assertion span .startLine
    | '$' => return .assertion span .endLine
    | c => return .literal ⟨span, c, false⟩

/-! ## Classes in brackets -/

/-- The items of a class between operators, last first. -/
structure Items where
  span : Span
  items : List ClassSet

namespace Items

def push (u : Items) (item : ClassSet) : Items :=
  let start := if u.items.isEmpty then item.span.start else u.span.start
  ⟨⟨start, item.span.stop⟩, item :: u.items⟩

def close (u : Items) : ClassSet :=
  match u.items with
  | [] => .empty u.span
  | [item] => item
  | items => .union u.span items.reverse

end Items

/-- What a class is inside of. -/
inductive ClassFrame where
  /-- An open bracket, whose span reaches up to its first item, and the items before it. -/
  | bracket (before : Items) (span : Span) (negated : Bool)
  /-- An operator with its left operand. -/
  | operator (op : SetOperator) (lhs : ClassSet)

/-- The fault of a class that does not end: the innermost open bracket. -/
def unclosedClass {α : Type} (frames : List ClassFrame) : Reading α := do
  match frames.findSome? fun | .bracket _ span _ => some span | .operator _ _ => none with
  | some span => fail .classUnclosed span
  | none => fail .classUnclosed (← here)

/-- Applies the pending operator to its right operand. -/
def applyOperator (rhs : ClassSet) : List ClassFrame → ClassSet × List ClassFrame
  | .operator op lhs :: frames => (.binary ⟨lhs.span.start, rhs.span.stop⟩ op lhs rhs, frames)
  | frames => (rhs, frames)

/-- Reads the minus signs that may begin a class. -/
def leadingMinus (start : Position) : (fuel : Nat) → Items → Reading Items
  | 0, items => return items
  | fuel + 1, items => do
    if ← peekIs '-' then
      let span ← charSpan
      if !(← bumpPastBlanks) then fail .classUnclosed (.point start)
      leadingMinus start fuel (items.push (.literal ⟨span, '-', false⟩))
    else return items

/-- Reads an opening bracket, its negation, and the characters that stand for themselves only at
the start of a class. -/
def openClass (before : Items) : Reading (ClassFrame × Items) := do
  let start ← place
  if !(← bumpPastBlanks) then fail .classUnclosed (← since start)
  let negated ← peekIs '^'
  if negated then
    if !(← bumpPastBlanks) then fail .classUnclosed (← since start)
  let items ← leadingMinus start ((← remaining) + 1) ⟨← here, []⟩
  if items.items.isEmpty then
    if ← peekIs ']' then
      let span ← charSpan
      if !(← bumpPastBlanks) then fail .classUnclosed (← since start)
      return (.bracket before (← since start) negated, items.push (.literal ⟨span, ']', false⟩))
  return (.bracket before (← since start) negated, items)

/-- Reads `[:name:]` or `[:^name:]`; what is no such class is left unread. -/
def asciiClass? : Reading (Option ClassSet) := do
  let r ← get
  match r.rest with
  | '[' :: ':' :: inside =>
    let negated := inside.head? == some '^'
    let name := (if negated then inside.drop 1 else inside).takeWhile (· != ':')
    match AsciiClass.ofName? (String.ofList name) with
    | none => return none
    | some cls =>
      let spelled := ['[', ':'] ++ (if negated then ['^'] else []) ++ name ++ [':', ']']
      if ← bumpIf spelled then return some (.ascii (← since r.place) cls negated)
      else return none
  | _ => return none

/-- Reads one character or escape of a class. -/
def classPrimitive : Reading Tree := do
  let c := (← peek?).getD ' '
  if c = '\\' then escape
  else
    let span ← charSpan
    let _ ← bump
    return .literal ⟨span, c, false⟩

/-- An escape as an item of a class. -/
def classItem : Tree → Reading ClassSet
  | .literal lit => return .literal lit
  | .perl span cls negated => return .perl span cls negated
  | .property span query negated => return .property span query negated
  | tree => fail .classEscapeInvalid tree.span

/-- An escape as an end of a range. -/
def rangeEnd : Tree → Reading Literal
  | .literal lit => return lit
  | tree => fail .classRangeLiteral tree.span

/-- Reads an item of a class or a range. -/
def classRange (frames : List ClassFrame) : Reading ClassSet := do
  let first ← classPrimitive
  skipBlanks
  if ← atEnd then unclosedClass frames
  let second ← peekVisible?
  if !(← peekIs '-') || second == some ']' || second == some '-' then
    classItem first
  else
    if !(← bumpPastBlanks) then unclosedClass frames
    let last ← classPrimitive
    let span : Span := ⟨first.span.start, last.span.stop⟩
    let a ← rangeEnd first
    let b ← rangeEnd last
    if b.char < a.char then fail .classRangeInvalid span
    return .range span a b

/-- The operator that two equal characters spell. -/
def setOperator? : Option Char → Option SetOperator
  | some '&' => some .intersection
  | some '-' => some .difference
  | some '~' => some .symmetricDifference
  | _ => none

/-- Reads the rest of a class. `items` are those of the innermost bracket since the last
operator. -/
def classLoop : (fuel : Nat) → List ClassFrame → Items → Reading Tree
  | 0, frames, _ => unclosedClass frames
  | fuel + 1, frames, items => do
    skipBlanks
    let next ← peek?
    match next with
    | none => unclosedClass frames
    | some '[' =>
      match ← if frames.isEmpty then pure none else asciiClass? with
      | some cls => classLoop fuel frames (items.push cls)
      | none =>
        let (frame, inside) ← openClass items
        classLoop fuel (frame :: frames) inside
    | some ']' =>
      let (inside, frames) := applyOperator items.close frames
      let _ ← bump
      match frames with
      | .bracket before span negated :: frames =>
        let span : Span := ⟨span.start, ← place⟩
        if frames.isEmpty then return .bracketed span negated inside
        else classLoop fuel frames (before.push (.bracketed span negated inside))
      | _ => unclosedClass frames
    | some c =>
      match setOperator? next, (← peekSecond?) == next with
      | some op, true =>
        let _ ← bumpIf [c, c]
        let (lhs, frames) := applyOperator items.close frames
        classLoop fuel (.operator op lhs :: frames) ⟨← here, []⟩
      | _, _ => classLoop fuel frames (items.push (← classRange frames))

/-- Reads a class in brackets. -/
def bracketedClass : Reading Tree := do
  classLoop ((← remaining) + 1) [] ⟨← here, []⟩

/-! ## Groups -/

def flagOf? : Char → Option Flag
  | 'i' => some .caseInsensitive
  | 'm' => some .multiLine
  | 's' => some .dotMatchesNewLine
  | 'U' => some .swapGreed
  | 'u' => some .unicode
  | 'R' => some .crlf
  | 'x' => some .ignoreWhitespace
  | _ => none

/-- Reads flags up to a colon or a closing parenthesis, which comes next in the end. -/
def flagMarks : (fuel : Nat) → FlagMarks → Reading FlagMarks
  | 0, marks => return marks
  | fuel + 1, marks => do
    let c := (← peek?).getD ')'
    if c = ':' || c = ')' then
      match marks.getLast? with
      | some (.negation, span) => fail .flagDanglingNegation span
      | _ => return marks
    else
      let span ← charSpan
      let mark ←
        if c = '-' then pure FlagMark.negation
        else match flagOf? c with
          | some flag => pure (FlagMark.flag flag)
          | none => fail .flagUnrecognized span
      match marks.find? fun (m, _) => m = mark with
      | some (_, earlier) =>
        failWith (if c = '-' then .flagRepeatedNegation else .flagDuplicate) span earlier
      | none =>
        if !(← bump) then fail .flagUnexpectedEnd (← here)
        flagMarks fuel (marks ++ [(mark, span)])

/-- The character may be part of the name of a group. -/
def isNameChar (first : Bool) (c : Char) : Bool :=
  c = '_' || Unicode.alphabetic.contains c ||
    (!first && (c = '.' || c = '[' || c = ']' || Unicode.number.contains c))

/-- Reads the name of a group up to `>`, last character first. -/
def nameChars : (fuel : Nat) → (read : List Char) → Reading (List Char)
  | 0, read => return read
  | fuel + 1, read => do
    match ← peek? with
    | none => return read
    | some c =>
      if c = '>' then return read
      if !isNameChar read.isEmpty c then fail .groupNameInvalid (← charSpan)
      let _ ← bump
      nameChars fuel (c :: read)

/-- Reads the name of a group and the `>` after it. -/
def groupName : Reading Unit := do
  if ← atEnd then fail .groupNameUnexpectedEnd (← here)
  let start ← place
  let read ← nameChars (← remaining) []
  let span ← since start
  if ← atEnd then fail .groupNameUnexpectedEnd (← here)
  let _ ← bump
  if read.isEmpty then fail .groupNameEmpty (.point start)
  let name := String.ofList read.reverse
  match (← get).names.find? fun (n, _) => n = name with
  | some (_, earlier) => failWith .groupNameDuplicate span earlier
  | none => modify fun r => { r with names := (name, span) :: r.names }

/-- Reads what follows the opening parenthesis of a group up to its inside; flags alone are a tree
of their own. -/
def groupStart : Reading (Span × (GroupKind ⊕ FlagMarks)) := do
  let span ← charSpan
  let _ ← bump
  skipBlanks
  if ← bumpIfAny [['?', '='], ['?', '!'], ['?', '<', '='], ['?', '<', '!']] then
    fail .lookAround (← since span.start)
  let inner ← here
  if ← bumpIfAny [['?', 'P', '<'], ['?', '<']] then
    groupName
    return (span, .inl .capturing)
  else if ← bumpIf ['?'] then
    if ← atEnd then fail .groupUnclosed span
    let marks ← flagMarks ((← remaining) + 1) []
    let closes ← peekIs ')'
    let _ ← bump
    if closes then
      if marks.isEmpty then fail .repetitionMissing inner
      return (← since span.start, .inr marks)
    else return (span, .inl (.flagged marks))
  else return (span, .inl .capturing)

/-- What has been read of the inside of a group. -/
structure Level where
  /-- Where the first branch starts. -/
  start : Position
  /-- The branches before the current one, last first. -/
  branches : List Tree
  /-- Where the current branch starts. -/
  branchStart : Position
  /-- The parts of the current branch, last first. -/
  parts : List Tree

namespace Level

def new (start : Position) : Level := ⟨start, [], start, []⟩

def push (l : Level) (part : Tree) : Level := { l with parts := part :: l.parts }

/-- The current branch, which ends at `stop`. -/
def branch (l : Level) (stop : Position) : Tree :=
  match l.parts with
  | [] => .empty ⟨l.branchStart, stop⟩
  | [part] => part
  | parts => .concat ⟨l.branchStart, stop⟩ parts.reverse

/-- Ends the current branch at `stop` and begins another at `next`. -/
def nextBranch (l : Level) (stop next : Position) : Level :=
  ⟨l.start, l.branch stop :: l.branches, next, []⟩

def close (l : Level) (stop : Position) : Tree :=
  match l.branches with
  | [] => l.branch stop
  | branches => .alternation ⟨l.start, stop⟩ ((l.branch stop :: branches).reverse)

end Level

/-- An open group and what came before it. -/
structure Opening where
  outer : Level
  span : Span
  kind : GroupKind
  /-- Whether blanks were ignored outside. -/
  ignoredBlanks : Bool

/-- The part that a repetition applies to, and the parts before it. -/
def repeated (level : Level) : Reading (Tree × Level) := do
  match level.parts with
  | [] => fail .repetitionMissing (← here)
  | .empty _ :: _ => fail .repetitionMissing (← here)
  | .flags _ _ :: _ => fail .repetitionMissing (← here)
  | part :: parts => return (part, { level with parts })

/-- Reads `?`, `*` or `+`, which repeats the last part, and the sign of reluctance after it. -/
def simpleRepetition (level : Level) (min : Nat) (max : Option Nat) : Reading Level := do
  let (body, level) ← repeated level
  if ← bump then
    if ← peekIs '?' then
      let _ ← bump
  return level.push (.repetition ⟨body.span.start, ← place⟩ min max body)

/-- Reads a number of repetitions in braces, and the sign of reluctance after it. -/
def countedRepetition (level : Level) : Reading Level := do
  let (body, level) ← repeated level
  let start ← place
  if !(← bumpPastBlanks) then fail .repetitionCountUnclosed (← since start)
  let first ← decimal
  if ← atEnd then fail .repetitionCountUnclosed (← since start)
  let (min, max) ←
    if ← peekIs ',' then
      if !(← bumpPastBlanks) then fail .repetitionCountUnclosed (← since start)
      if ← peekIs '\x7d' then
        let min ← liftExcept first
        pure (min, none)
      else
        let min ← liftExcept first
        let max ← liftExcept (← decimal)
        pure (min, some max)
    else
      let min ← liftExcept first
      pure (min, some min)
  if !(← peekIs '\x7d') then fail .repetitionCountUnclosed (← since start)
  if ← bumpPastBlanks then
    if ← peekIs '?' then
      let _ ← bump
  if max.any (· < min) then fail .repetitionCountInvalid (← since start)
  return level.push (.repetition ⟨body.span.start, ← place⟩ min max body)
where
  liftExcept (r : Except Fault Nat) : Reading Nat :=
    match r with
    | .ok n => return n
    | .error fault => throw fault

/-- Reads the rest of the pattern. -/
def patternLoop : (fuel : Nat) → List Opening → Level → Reading Tree
  | 0, _, level => return level.close (← place)
  | fuel + 1, openings, level => do
    skipBlanks
    match ← peek? with
    | none =>
      match openings with
      | [] => return level.close (← place)
      | opening :: _ => fail .groupUnclosed opening.span
    | some '(' =>
      match ← groupStart with
      | (span, .inr marks) =>
        match marks.state? .ignoreWhitespace with
        | some on => modify fun r => { r with ignoresBlanks := on }
        | none => pure ()
        patternLoop fuel openings (level.push (.flags span marks))
      | (span, .inl kind) =>
        let ignored := (← get).ignoresBlanks
        let marks := match kind with | .flagged marks => marks | .capturing => []
        modify fun r => { r with ignoresBlanks := (marks.state? .ignoreWhitespace).getD ignored }
        patternLoop fuel (⟨level, span, kind, ignored⟩ :: openings) (.new (← place))
    | some ')' =>
      match openings with
      | [] => fail .groupUnopened (← charSpan)
      | opening :: openings =>
        let inside := level.close (← place)
        modify fun r => { r with ignoresBlanks := opening.ignoredBlanks }
        let _ ← bump
        let span ← since opening.span.start
        patternLoop fuel openings (opening.outer.push (.group span opening.kind inside))
    | some '|' =>
      let stop ← place
      let _ ← bump
      patternLoop fuel openings (level.nextBranch stop (← place))
    | some '[' => patternLoop fuel openings (level.push (← bracketedClass))
    | some '?' => patternLoop fuel openings (← simpleRepetition level 0 (some 1))
    | some '*' => patternLoop fuel openings (← simpleRepetition level 0 none)
    | some '+' => patternLoop fuel openings (← simpleRepetition level 1 none)
    | some '\x7b' => patternLoop fuel openings (← countedRepetition level)
    | some _ => patternLoop fuel openings (level.push (← primitive))

/-! ## Nesting -/

def nestLimit : Nat := 250

/-- The depth below a node of this span. -/
def deeper (depth : Nat) (span : Span) : Except Fault Nat :=
  if depth < nestLimit then .ok (depth + 1) else .error ⟨.nestLimitExceeded nestLimit, span, none⟩

mutual

def checkClass (depth : Nat) : ClassSet → Except Fault Unit
  | .bracketed span _ inside => do checkClass (← deeper depth span) inside
  | .union span items => do checkClasses (← deeper depth span) items
  | .binary span _ lhs rhs => do
    let depth ← deeper depth span
    checkClass depth lhs
    checkClass depth rhs
  | _ => .ok ()

def checkClasses (depth : Nat) : List ClassSet → Except Fault Unit
  | [] => .ok ()
  | item :: items => do
    checkClass depth item
    checkClasses depth items

end

mutual

/-- Finds the first node that is nested too deep. -/
def checkTree (depth : Nat) : Tree → Except Fault Unit
  | .bracketed span _ inside => do checkClass (← deeper depth span) inside
  | .repetition span _ _ body => do checkTree (← deeper depth span) body
  | .group span _ body => do checkTree (← deeper depth span) body
  | .alternation span branches => do checkTrees (← deeper depth span) branches
  | .concat span parts => do checkTrees (← deeper depth span) parts
  | _ => .ok ()

def checkTrees (depth : Nat) : List Tree → Except Fault Unit
  | [] => .ok ()
  | tree :: trees => do
    checkTree depth tree
    checkTrees depth trees

end

/-- The tree of a pattern. -/
def parse (pattern : String) : Except Fault Tree := do
  let reader := Reader.start pattern
  let (tree, _) ← (patternLoop (reader.rest.length + 1) [] (.new reader.place)).run reader
  checkTree 0 tree
  return tree

end Parser

end LineSieve.Pattern
