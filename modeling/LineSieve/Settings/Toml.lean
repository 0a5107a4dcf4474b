import LineSieve.Settings.Number
import LineSieve.Settings.Reading
import LineSieve.Settings.Toml.Entry
import LineSieve.Settings.Toml.Moment

/-!
# TOML

Reads files of lines that are entries, headings or comments. Integers are within 64 bits, moments
become texts.

* `Toml.read?`: the entries of a file.
-/

namespace LineSieve.Settings.Toml

def isBlank (c : Char) : Bool := c = ' ' || c = '\t'

def blanks : Reading Unit := do
  let _ ← Reading.takeWhile isBlank

/-- A character that may stand in a comment or, its quote apart, in a text on one line. -/
def isPlain (c : Char) : Bool := c = '\t' || (0x20 ≤ c.toNat && c.toNat ≠ 0x7f)

/-- Takes off a line break if one comes next, and tells whether it did. -/
def lineBreak : Reading Bool := do
  if ← Reading.skip '\n' then return true
  else Reading.skipAll ['\r', '\n']

def comment : Reading Unit := do
  if ← Reading.skip '#' then
    let _ ← Reading.takeWhile isPlain

/-- The end of a line, with the blanks and the comment before it. -/
def lineEnd : Reading Unit := do
  blanks
  comment
  if !(← lineBreak) then
    if !(← Reading.atEnd) then failure

/-- Blanks, comments and line breaks. -/
def gap : Nat → Reading Unit
  | 0 => failure
  | fuel + 1 => do
    blanks
    comment
    if ← lineBreak then gap fuel

/-! ## Texts -/

def isBareKey (c : Char) : Bool := c.isAlphanum || c = '_' || c = '-'

/-- A character given by some number of hexadecimal digits. -/
def numberedChar (n : Nat) : Reading Char := do
  let digits ← (List.range n).mapM fun _ => Reading.next
  charOf? (← digitsValue? 16 digits)

/-- The character of an escape, after its backslash. -/
def escape : Reading Char := do
  match ← Reading.next with
  | '"' => return '"'
  | '\\' => return '\\'
  | 'b' => return '\x08'
  | 'e' => return '\x1b'
  | 'f' => return '\x0c'
  | 'n' => return '\n'
  | 'r' => return '\r'
  | 't' => return '\t'
  | 'x' => numberedChar 2
  | 'u' => numberedChar 4
  | 'U' => numberedChar 8
  | _ => failure

/-- A text on one line after its first quote, with escapes. -/
def basicRest : Nat → List Char → Reading String
  | 0, _ => failure
  | fuel + 1, before => do
    match ← Reading.next with
    | '"' => return String.ofList before.reverse
    | '\\' => basicRest fuel ((← escape) :: before)
    | c => if isPlain c then basicRest fuel (c :: before) else failure

/-- A text on one line after its first quote, without escapes. -/
def literalRest : Reading String := do
  let cs ← Reading.takeWhile fun c => isPlain c && c != '\''
  Reading.expect '\''
  return String.ofList cs

/-- The blanks at the end of a line and the line breaks and blanks after it, which an escape
leaves out. There must be a line break. -/
def skippedLines : Nat → Bool → Reading Unit
  | 0, _ => failure
  | fuel + 1, broken => do
    blanks
    if ← lineBreak then skippedLines fuel true
    else if !broken then failure

/-- The quotes after three that close a text: one or two more belong to it. -/
def quotesLeft (quote : Char) : Reading (List Char) := do
  if ← Reading.skip quote then
    if ← Reading.skip quote then return [quote, quote] else return [quote]
  else return []

/-- A text over lines after its first three quotes. -/
def linesRest (quote : Char) : Nat → List Char → Reading String
  | 0, _ => failure
  | fuel + 1, before => do
    if ← Reading.skipAll [quote, quote, quote] then
      return String.ofList ((← quotesLeft quote) ++ before).reverse
    else if ← lineBreak then linesRest quote fuel ('\n' :: before)
    else
      let c ← Reading.next
      if c = '\\' && quote = '"' then
        match ← Reading.peek? with
        | some d =>
          if isBlank d || d = '\n' || d = '\r' then
            skippedLines (← Reading.remaining) false
            linesRest quote fuel before
          else linesRest quote fuel ((← escape) :: before)
        | none => failure
      else if isPlain c then linesRest quote fuel (c :: before)
      else failure

/-- A text over lines after its first three quotes; a line break right after these is left out. -/
def lines (quote : Char) : Reading String := do
  let _ ← lineBreak
  linesRest quote (← Reading.remaining) []

/-- A text in quotes on one line. -/
def quoted : Reading String := do
  if ← Reading.skip '"' then basicRest (← Reading.remaining) []
  else
    Reading.expect '\''
    literalRest

/-! ## Keys -/

def simpleKey : Reading String := do
  match ← Reading.peek? with
  | some '"' | some '\'' => quoted
  | _ =>
    let cs ← Reading.takeWhile isBareKey
    if cs.isEmpty then failure else return String.ofList cs

/-- The names of a key with dots, with the blanks around them. -/
def keyRest : Nat → Reading (List String)
  | 0 => failure
  | fuel + 1 => do
    blanks
    let name ← simpleKey
    blanks
    if ← Reading.skip '.' then return name :: (← keyRest fuel) else return [name]

def key : Reading (List String) := do keyRest (← Reading.remaining)

/-! ## Values -/

/-- Digits with single underscores between them, without these. -/
def digitsOf? (isDigit : Char → Bool) : List Char → Option (List Char)
  | [] => none
  | [c] => if isDigit c then some [c] else none
  | c :: '_' :: cs => if isDigit c then (digitsOf? isDigit cs).map (c :: ·) else none
  | c :: cs => if isDigit c then (digitsOf? isDigit cs).map (c :: ·) else none

def integerWithin (n : Int) : Option Value :=
  if -Number.signedBound ≤ n && n < Number.signedBound then some (.integer n) else none

/-- Whole digits without a zero in front. -/
def wholeDigits? (cs : List Char) : Option (List Char) := do
  let digits ← digitsOf? Char.isDigit cs
  if digits.head? = some '0' && digits.length ≠ 1 then none else some digits

def integer? (cs : List Char) : Option Value :=
  let based (base : Nat) (cs : List Char) : Option Value := do
    let digits ← digitsOf? (fun c => (hexValue? c).isSome) cs
    integerWithin (← digitsValue? base digits)
  match cs with
  | '0' :: 'x' :: cs => based 16 cs
  | '0' :: 'o' :: cs => based 8 cs
  | '0' :: 'b' :: cs => based 2 cs
  | cs => do
    let (negative, cs) := Number.splitSign cs
    let n : Int := Number.natOf (← wholeDigits? cs)
    integerWithin (if negative then -n else n)

def real? (cs : List Char) : Option Value := do
  let (negative, cs) := Number.splitSign cs
  if cs = "inf".toList then
    return .real (if negative then -(1.0 / 0.0) else 1.0 / 0.0)
  else if cs = "nan".toList then return .real (0.0 / 0.0)
  else
    let isMark (c : Char) : Bool := c = '.' || c = 'e' || c = 'E'
    if !cs.any isMark then none
    let whole ← wholeDigits? (cs.takeWhile fun c => !isMark c)
    let (fraction, rest) ← match cs.dropWhile fun c => !isMark c with
      | '.' :: cs => do
        let digits ← digitsOf? Char.isDigit (cs.takeWhile fun c => !isMark c)
        pure (digits, cs.dropWhile fun c => !isMark c)
      | cs => some ([], cs)
    let exponent ← match rest with
      | [] => some 0
      | _ :: cs => do
        let (negative, cs) := Number.splitSign cs
        let n : Int := Number.natOf (← digitsOf? Char.isDigit cs)
        pure (if negative then -n else n)
    if rest.head? = some '.' then none
    return .real
      (Number.ofDecimal negative (Number.natOf (whole ++ fraction)) (exponent - fraction.length))

/-- The value of a word without quotes. -/
def bare? (cs : List Char) : Option Value :=
  if cs = "true".toList then some (.boolean true)
  else if cs = "false".toList then some (.boolean false)
  else
    (integer? cs).or ((real? cs).or ((Moment.read? cs).map fun m => .text m.render))

def isBareValue (c : Char) : Bool := isBareKey c || c = '+' || c = '.' || c = ':'

/-- A word without quotes. A blank inside it can stand only between a date and a time. -/
def bare : Reading Value := do
  let cs ← Reading.takeWhile isBareValue
  let after ← get
  match after with
  | ' ' :: c :: _ =>
    if c.isDigit && (Moment.date? cs).any (·.2.isEmpty) then
      let _ ← Reading.next
      bare? (cs ++ ' ' :: (← Reading.takeWhile isBareValue))
    else bare? cs
  | _ => bare? cs

mutual

def value : Nat → Reading Value
  | 0 => failure
  | fuel + 1 => do
    if ← Reading.skipAll ['"', '"', '"'] then return .text (← lines '"')
    else if ← Reading.skipAll ['\'', '\'', '\''] then return .text (← lines '\'')
    else
      match ← Reading.peek? with
      | some '"' | some '\'' => return .text (← quoted)
      | some '[' =>
        let _ ← Reading.next
        return .list (← items fuel [])
      | some '{' =>
        let _ ← Reading.next
        return (Entry.table .headed (← braced fuel [])).toValue
      | _ => bare

/-- The items of a list up to its closing bracket. -/
def items : Nat → List Value → Reading (List Value)
  | 0, _ => failure
  | fuel + 1, before => do
    gap (← Reading.remaining)
    if ← Reading.skip ']' then return before.reverse
    let read := (← value fuel) :: before
    gap (← Reading.remaining)
    if ← Reading.skip ']' then return read.reverse
    Reading.expect ','
    items fuel read

/-- The entries of a table up to its closing brace. -/
def braced : Nat → Entries → Reading Entries
  | 0, _ => failure
  | fuel + 1, before => do
    gap (← Reading.remaining)
    if ← Reading.skip '}' then return before
    let names ← key
    Reading.expect '='
    blanks
    let read ← Entries.assign? (← value fuel) names before
    gap (← Reading.remaining)
    if ← Reading.skip '}' then return read
    Reading.expect ','
    braced fuel read

end

/-! ## Lines -/

/-- The names of a heading up to its closing bracket. -/
def heading : Reading (List String) := do
  let names ← key
  Reading.expect ']'
  return names

/-- Reads the lines of a file, of which those before gave `entries` and the current heading. -/
def linesFrom : Nat → List String → Entries → Reading Entries
  | 0, _, _ => failure
  | fuel + 1, current, entries => do
    gap (← Reading.remaining)
    if ← Reading.atEnd then return entries
    if ← Reading.skipAll ['[', '['] then
      let names ← heading
      Reading.expect ']'
      lineEnd
      linesFrom fuel names (← entries.append? names)
    else if ← Reading.skip '[' then
      let names ← heading
      lineEnd
      linesFrom fuel names (← entries.open? names)
    else
      let names ← key
      Reading.expect '='
      blanks
      let v ← value (2 * (← Reading.remaining))
      lineEnd
      linesFrom fuel current (← entries.update? (Entries.assign? v names) current)

/-- The entries of a file. -/
def read? (text : String) : Option Table :=
  let whole : Reading Entries := do linesFrom (← Reading.remaining) [] []
  (whole.run? text.toList).map entriesToTable

end LineSieve.Settings.Toml
