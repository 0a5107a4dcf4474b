import LineSieve.Settings.Error
import LineSieve.Settings.Number
import LineSieve.Settings.Value
import LineSieve.Unicode.CaseMap

/-!
# Settings of a type

A setting has a value and the file it is from. Numbers, truth values and the words for these stand
for each other.

* `Setting.toNat`: the setting as a number without a sign.
* `Setting.toBool`: the setting as a truth value.
-/

namespace LineSieve.Settings

structure Setting where
  value : Value
  origin : Option String

namespace Setting

/-- Words for yes and no, in lower case. -/
def wordValue? (word : String) : Option Bool :=
  if ["true", "on", "yes"].contains word then some true
  else if ["false", "off", "no"].contains word then some false
  else none

/-- A number of at most 64 bits, with a plus sign in front or none. -/
def natOf? (s : String) : Option Nat :=
  let digits := match s.toList with
    | '+' :: cs => cs
    | cs => cs
  if digits.isEmpty || !digits.all Char.isDigit then none
  else
    let n := Number.natOf digits
    if n < Number.unsignedBound then some n else none

/-- What a value is, in words. -/
def describe : Value → String
  | .null => "unit value"
  | .boolean b => "boolean `" ++ (if b then "true" else "false") ++ "`"
  | .integer n => "64-bit integer `" ++ toString n ++ "`"
  | .real _ => "floating point"
  | .text s => "string " ++ Text.quote s
  | .list _ => "sequence"
  | .table _ => "map"

def fail {α : Type} (s : Setting) (key : String) (found : Value) (expected : String) :
    Except Error α :=
  .error (.mismatch ⟨describe found, expected, key, s.origin⟩)

def toNat (s : Setting) (key : String) : Except Error Nat :=
  match s.value with
  | .integer n =>
    if 0 ≤ n then .ok n.toNat else s.fail key s.value "an unsigned 64 bit or less integer"
  | .real x => .ok (Number.round x)
  | .boolean b => .ok (if b then 1 else 0)
  | .text word =>
    match wordValue? (Unicode.lowerCase word) with
    | some b => .ok (if b then 1 else 0)
    | none =>
      match natOf? word with
      | some n => .ok n
      | none => s.fail key s.value "an integer"
  | .null | .list _ | .table _ => s.fail key s.value "an integer"

def toBool (s : Setting) (key : String) : Except Error Bool :=
  match s.value with
  | .boolean b => .ok b
  | .integer n => .ok (n ≠ 0)
  | .real x => .ok (x != 0.0)
  | .text word =>
    let word := Unicode.lowerCase word
    if word = "1" then .ok true
    else if word = "0" then .ok false
    else
      match wordValue? word with
      | some b => .ok b
      | none => s.fail key (.text word) "a boolean"
  | .null | .list _ | .table _ => s.fail key s.value "a boolean"

end Setting

end LineSieve.Settings
