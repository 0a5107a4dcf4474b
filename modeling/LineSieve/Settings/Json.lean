import LineSieve.Settings.Number
import LineSieve.Settings.Reading

/-!
# JSON

Reads the objects of JSON: no comments, no comma after the last item, and of two entries with one
name the last counts. Whole numbers within 64 bits are integers, all others are reals, which must
be finite. Values are nested less than 128 deep.

* `Json.read?`: the entries of the object that a text holds.
-/

namespace LineSieve.Settings.Json

def depthLimit : Nat := 128

def isBlank (c : Char) : Bool := c = ' ' || c = '\t' || c = '\n' || c = '\r'

def blanks : Reading Unit := do
  let _ ← Reading.takeWhile isBlank

/-- A character given by four hexadecimal digits, which may be half of a pair of surrogates. -/
def unit : Reading Nat := do
  let digits := [← Reading.next, ← Reading.next, ← Reading.next, ← Reading.next]
  digitsValue? 16 digits

/-- The character of an escape with a number. The second half of a pair must follow the first. -/
def numberedChar : Reading Char := do
  let high ← unit
  if 0xd800 ≤ high && high ≤ 0xdbff then
    Reading.expect '\\'
    Reading.expect 'u'
    let low ← unit
    if 0xdc00 ≤ low && low ≤ 0xdfff then
      charOf? (0x10000 + (high - 0xd800) * 0x400 + (low - 0xdc00))
    else failure
  else charOf? high

/-- The character of an escape, after its backslash. -/
def escape : Reading Char := do
  match ← Reading.next with
  | '"' => return '"'
  | '\\' => return '\\'
  | '/' => return '/'
  | 'b' => return '\x08'
  | 'f' => return '\x0c'
  | 'n' => return '\n'
  | 'r' => return '\r'
  | 't' => return '\t'
  | 'u' => numberedChar
  | _ => failure

/-- What is left of a text in quotes, with the characters of `before` in front in reverse. -/
def stringRest : Nat → List Char → Reading String
  | 0, _ => failure
  | fuel + 1, before => do
    match ← Reading.next with
    | '"' => return String.ofList before.reverse
    | '\\' => stringRest fuel ((← escape) :: before)
    | c => if c.toNat < 0x20 then failure else stringRest fuel (c :: before)

/-- A text in quotes, after its first quote. -/
def string : Reading String := do
  stringRest (← Reading.remaining) []

def someDigits : Reading (List Char) := do
  let digits ← Reading.takeWhile Char.isDigit
  if digits.isEmpty then failure else return digits

/-- The exponent of a number, if there is one. -/
def exponent : Reading (Option Int) := do
  if ← Reading.skipAny ['e', 'E'] then
    let negative := (← Reading.peek?) = some '-'
    let _ ← Reading.skipAny ['-', '+']
    let n : Int := Number.natOf (← someDigits)
    return some (if negative then -n else n)
  else return none

def finite (x : Float) : Reading Value := if x.isFinite then return .real x else failure

def number : Reading Value := do
  let negative ← Reading.skip '-'
  let whole ← someDigits
  if whole.head? = some '0' && whole.length ≠ 1 then failure
  let fraction ← if ← Reading.skip '.' then some <$> someDigits else pure none
  let exponent ← exponent
  match fraction, exponent with
  | none, none =>
    let n := Number.natOf whole
    if negative then
      if n = 0 then return .real (-0.0)
      else if n ≤ Number.signedBound then return .integer (-n)
      else finite (Number.ofDecimal true n 0)
    else if n < Number.unsignedBound then return .integer n
    else finite (Number.ofDecimal false n 0)
  | _, _ =>
    let fraction := fraction.getD []
    finite (Number.ofDecimal negative (Number.natOf (whole ++ fraction))
      (exponent.getD 0 - fraction.length))

mutual

/-- A value at a depth, with the blanks after it. -/
def value : Nat → Nat → Reading Value
  | 0, _ => failure
  | fuel + 1, depth => do
    let v ← match ← Reading.peek? with
      | some '"' => do
        let _ ← Reading.next
        pure (Value.text (← string))
      | some '{' => do
        let _ ← Reading.next
        if depthLimit ≤ depth + 1 then failure
        blanks
        if ← Reading.skip '}' then pure (.table [])
        else pure (.table (← entries fuel (depth + 1) []))
      | some '[' => do
        let _ ← Reading.next
        if depthLimit ≤ depth + 1 then failure
        blanks
        if ← Reading.skip ']' then pure (.list [])
        else pure (.list (← items fuel (depth + 1) []))
      | _ =>
        if ← Reading.skipAll "true".toList then pure (.boolean true)
        else if ← Reading.skipAll "false".toList then pure (.boolean false)
        else if ← Reading.skipAll "null".toList then pure .null
        else number
    blanks
    return v

/-- The entries of an object up to its closing brace. -/
def entries : Nat → Nat → Table → Reading Table
  | 0, _, _ => failure
  | fuel + 1, depth, before => do
    Reading.expect '"'
    let name ← string
    blanks
    Reading.expect ':'
    blanks
    let entered := Table.insert name (← value fuel depth) before
    if ← Reading.skip '}' then return entered
    Reading.expect ','
    blanks
    entries fuel depth entered

/-- The items of an array up to its closing bracket. -/
def items : Nat → Nat → List Value → Reading (List Value)
  | 0, _, _ => failure
  | fuel + 1, depth, before => do
    let read := (← value fuel depth) :: before
    if ← Reading.skip ']' then return read.reverse
    Reading.expect ','
    blanks
    items fuel depth read

end

/-- The entries of the object in a text. -/
def read? (text : String) : Option Table :=
  let whole : Reading Value := do
    blanks
    value (2 * (← Reading.remaining)) 0
  match whole.run? text.toList with
  | some (.table entries) => some entries
  | _ => none

end LineSieve.Settings.Json
