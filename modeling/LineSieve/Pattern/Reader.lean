import LineSieve.Pattern.Tree
import LineSieve.Pattern.Fault
import LineSieve.Unicode.Property

/-!
# Reading a pattern

The state of a reader of patterns, and its moves over single characters. Where blanks are ignored,
a comment from `#` to the end of the line is ignored with them.
-/

namespace LineSieve.Pattern

structure Reader where
  /-- What is not yet read. -/
  rest : List Char
  place : Position
  /-- Blanks and comments are ignored. -/
  ignoresBlanks : Bool
  /-- The names of groups so far, with their spans. -/
  names : List (String × Span)

/-- A move of the reader, which may find a fault. -/
abbrev Reading (α : Type) := StateT Reader (Except Fault) α

namespace Reader

def start (pattern : String) : Reader := ⟨pattern.toList, .first, false, []⟩

/-- Moves past one character. -/
def step (r : Reader) : Reader :=
  match r.rest with
  | [] => r
  | c :: cs => { r with rest := cs, place := r.place.after c }

/-- Moves past blanks and comments. -/
def overBlanks (inComment : Bool) : List Char → Position → List Char × Position
  | [], p => ([], p)
  | c :: cs, p =>
    if inComment then overBlanks (c != '\n') cs (p.after c)
    else if Unicode.whiteSpace.contains c then overBlanks false cs (p.after c)
    else if c = '#' then overBlanks true cs (p.after c)
    else (c :: cs, p)

/-- The first character of `cs` that is no blank. `inComment` holds after a `#`, and then the next
character that is no blank is found. -/
def firstVisible? (inComment : Bool) : List Char → Option Char
  | [] => none
  | c :: cs =>
    if Unicode.whiteSpace.contains c then firstVisible? inComment cs
    else if !inComment && c = '#' then firstVisible? true cs
    else some c

end Reader

namespace Reading

def fail {α : Type} (kind : FaultKind) (span : Span) : Reading α := throw ⟨kind, span, none⟩

def failWith {α : Type} (kind : FaultKind) (span other : Span) : Reading α :=
  throw ⟨kind, span, some other⟩

def place : Reading Position := return (← get).place

/-- The empty span here. -/
def here : Reading Span := return Span.point (← get).place

/-- The span from a place to here. -/
def since (start : Position) : Reading Span := return ⟨start, (← get).place⟩

def peek? : Reading (Option Char) := return (← get).rest.head?

def peekIs (c : Char) : Reading Bool := return (← get).rest.head? == some c

def atEnd : Reading Bool := return (← get).rest.isEmpty

/-- The character after the next one. -/
def peekSecond? : Reading (Option Char) := return ((← get).rest.drop 1).head?

/-- The character after the next one, past blanks and comments if these are ignored. -/
def peekVisible? : Reading (Option Char) := do
  let r ← get
  let after := r.rest.drop 1
  if r.ignoresBlanks then return (Reader.firstVisible? false after).or after.head?
  else return after.head?

/-- The span of the next character. -/
def charSpan : Reading Span := do
  let r ← get
  return ⟨r.place, r.step.place⟩

/-- How many steps read all that is left. -/
def remaining : Reading Nat := return (← get).rest.length

def skipBlanks : Reading Unit := modify fun r =>
  if r.ignoresBlanks then
    let (rest, place) := Reader.overBlanks false r.rest r.place
    { r with rest, place }
  else r

/-- Moves past one character. Tells whether another one follows. -/
def bump : Reading Bool := do
  modify Reader.step
  return !(← get).rest.isEmpty

/-- Moves past one character and the blanks after it. Tells whether another one follows. -/
def bumpPastBlanks : Reading Bool := do
  if ← bump then
    skipBlanks
    return !(← get).rest.isEmpty
  else return false

/-- Moves past `expected` if it comes next. -/
def bumpIf (expected : List Char) : Reading Bool := do
  let r ← get
  if expected.isPrefixOf r.rest then
    set (expected.foldl (fun r _ => r.step) r)
    return true
  else return false

/-- Moves past the first of some texts that comes next. -/
def bumpIfAny : List (List Char) → Reading Bool
  | [] => return false
  | expected :: others => do
    if ← bumpIf expected then return true else bumpIfAny others

end Reading

end LineSieve.Pattern
