import LineSieve.Settings.Value

/-!
# Readers of characters

A reader takes something off the front of a text, or fails. The readers of the formats that look at
the next few characters only are made of these.
-/

namespace LineSieve.Settings

/-- A reader of the front of a text. -/
abbrev Reading (α : Type) := StateT (List Char) Option α

namespace Reading

def peek? : Reading (Option Char) := return (← get).head?

def atEnd : Reading Bool := return (← get).isEmpty

/-- The next character, which must be there. -/
def next : Reading Char := do
  match ← get with
  | [] => failure
  | c :: cs =>
    set cs
    return c

/-- Takes `c` off if it comes next, and tells whether it did. -/
def skip (c : Char) : Reading Bool := do
  match ← get with
  | d :: cs =>
    if c = d then
      set cs
      return true
    else return false
  | [] => return false

/-- Takes off the next character if it is one of `cs`, and tells whether it was. -/
def skipAny (cs : List Char) : Reading Bool := do
  match ← get with
  | d :: rest =>
    if cs.contains d then
      set rest
      return true
    else return false
  | [] => return false

def expect (c : Char) : Reading Unit := do
  if !(← skip c) then failure

/-- Takes the given characters off if they come next, and tells whether they did. -/
def skipAll (cs : List Char) : Reading Bool := do
  let text ← get
  if cs.isPrefixOf text then
    set (text.drop cs.length)
    return true
  else return false

/-- The longest run of characters that `p` holds of. -/
def takeWhile (p : Char → Bool) : Reading (List Char) := do
  let text ← get
  set (text.dropWhile p)
  return text.takeWhile p

/-- Enough steps to read all that is left one character at a time. -/
def remaining : Reading Nat := return (← get).length + 1

/-- The value of the text if the reader takes all of it. -/
def run? {α : Type} (r : Reading α) (text : List Char) : Option α :=
  match r.run text with
  | some (a, []) => some a
  | _ => none

end Reading

/-- The value of a hexadecimal digit. -/
def hexValue? (c : Char) : Option Nat :=
  if '0' ≤ c && c ≤ '9' then some (c.toNat - '0'.toNat)
  else if 'a' ≤ c && c ≤ 'f' then some (c.toNat - 'a'.toNat + 10)
  else if 'A' ≤ c && c ≤ 'F' then some (c.toNat - 'A'.toNat + 10)
  else none

/-- The number that digits of some base stand for; `none` if one of them is no such digit or there
are none. -/
def digitsValue? (base : Nat) (digits : List Char) : Option Nat :=
  if digits.isEmpty then none
  else
    digits.foldlM (fun n c => do
      let d ← hexValue? c
      if d < base then some (base * n + d) else none) 0

/-- The character with a number; `none` for surrogates and numbers past the last character. -/
def charOf? (n : Nat) : Option Char := if n.isValidChar then some (Char.ofNat n) else none

end LineSieve.Settings
