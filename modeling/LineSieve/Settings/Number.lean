/-!
# Numbers in settings files

Decimal texts of numbers with a fraction or an exponent, and the integers near them.

* `Number.ofDecimal`: the nearest number of double precision.
* `Number.read?`: reads a decimal text.
* `Number.round`: the nearest integer within 64 bits without a sign, halves away from zero.
-/

namespace LineSieve.Settings.Number

/-- Integers with a sign are below this number, and not below its negation. -/
def signedBound : Nat := 0x8000000000000000

/-- Integers without a sign are below this number. -/
def unsignedBound : Nat := 0x10000000000000000

/-- The nearest double of `mantissa * 10 ^ exponent`. Beyond the range of doubles there is no need
for the exact power. -/
def ofDecimal (negative : Bool) (mantissa : Nat) (exponent : Int) : Float :=
  let digits : Int := (toString mantissa).length
  let magnitude :=
    if mantissa = 0 then 0.0
    else if 400 < exponent + digits then 1.0 / 0.0
    else if exponent + digits < -400 then 0.0
    else Float.ofScientific mantissa (exponent < 0) exponent.natAbs
  if negative then -magnitude else magnitude

def natOf (digits : List Char) : Nat :=
  digits.foldl (fun n c => 10 * n + (c.toNat - '0'.toNat)) 0

/-- Takes a sign off the front of a text. -/
def splitSign : List Char → Bool × List Char
  | '-' :: cs => (true, cs)
  | '+' :: cs => (false, cs)
  | cs => (false, cs)

/-- Reads an exponent with its letter; no text is the exponent zero. -/
def exponent? : List Char → Option Int
  | [] => some 0
  | c :: cs =>
    if c = 'e' || c = 'E' then
      let (negative, digits) := splitSign cs
      if digits.isEmpty || !digits.all Char.isDigit then none
      else some (if negative then -(natOf digits : Int) else natOf digits)
    else none

/-- Reads digits with an optional sign, fraction and exponent. There must be a digit before or after
the point. -/
def read? (cs : List Char) : Option Float := do
  let (negative, cs) := splitSign cs
  let whole := cs.takeWhile Char.isDigit
  let (fraction, rest) := match cs.dropWhile Char.isDigit with
    | '.' :: cs => (cs.takeWhile Char.isDigit, cs.dropWhile Char.isDigit)
    | cs => ([], cs)
  if whole.isEmpty && fraction.isEmpty then none
  let exponent ← exponent? rest
  return ofDecimal negative (natOf (whole ++ fraction)) (exponent - fraction.length)

/-- The nearest integer, halves away from zero, cut off at zero and at the largest of 64 bits. -/
def round (x : Float) : Nat := x.round.toUInt64.toNat

end LineSieve.Settings.Number
