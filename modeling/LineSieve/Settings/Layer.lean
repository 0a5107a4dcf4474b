import LineSieve.Settings.Coercion
import LineSieve.Settings.Reading

/-!
# Layers of settings

Settings come in layers, one for each file. A key of a file can name a field or an item below the
key that it sets; then that key holds a table or a list. Of several layers that set a key the last
counts. The entries of a file are kept in no order, so of several that set a key any may count.

* `Layer.overlay`: a setting after one more layer.
* `EntryOrder`: the order in which entries are come across.
-/

namespace LineSieve.Settings

/-- What the key of an entry sets. -/
inductive Reach where
  /-- The value of the key itself. -/
  | whole
  /-- A field of the table that is the value. -/
  | field
  /-- An item of the list that is the value. -/
  | item
  deriving DecidableEq

def isKeyChar (c : Char) : Bool := c.isAlphanum || c = '_' || c = '-'

/-- A step of a key down to a field or to an item. -/
def keyStep : Reading Unit := do
  match ← Reading.next with
  | '.' =>
    if (← Reading.takeWhile isKeyChar).isEmpty then failure
  | '[' =>
    let _ ← Reading.takeWhile fun c => c = ' ' || c = '\t'
    let negative ← Reading.skip '-'
    let digits ← Reading.takeWhile Char.isDigit
    let limit := if negative then Number.signedBound else Number.signedBound - 1
    if (← digitsValue? 10 digits) > limit then failure
    let _ ← Reading.takeWhile fun c => c = ' ' || c = '\t'
    Reading.expect ']'
  | _ => failure

def keySteps : Nat → Reading Unit
  | 0 => failure
  | fuel + 1 => do
    if !(← Reading.atEnd) then
      keyStep
      keySteps fuel

/-- Where steps lead that can be read. -/
def Reach.ofSteps : List Char → Reach
  | [] => .whole
  | '.' :: _ => .field
  | _ => .item

/-- The key that an entry sets, and what of its value. A name that does not have the form of a key
with steps is a key as it stands. -/
def target (name : String) : String × Reach :=
  let root := name.toList.takeWhile isKeyChar
  let steps := name.toList.dropWhile isKeyChar
  if root.isEmpty || ((keySteps (steps.length + 1)).run? steps).isNone then (name, .whole)
  else (String.ofList root, .ofSteps steps)

namespace Setting

/-- The setting after an entry that sets it. What a table or a list holds is of no account. -/
def assign (s : Setting) (reach : Reach) (value : Value) (origin : String) : Setting :=
  match reach, value, s.value with
  | .whole, .table _, _ => ⟨.table [], none⟩
  | .whole, value, _ => ⟨value, some origin⟩
  | .field, _, _ => ⟨.table [], none⟩
  | .item, _, .list _ => s
  | .item, _, _ => ⟨.list [], none⟩

end Setting

/-- The entries of a file. -/
structure Layer where
  origin : String
  entries : Table

/-- The setting of a key after a layer. -/
def Layer.overlay (key : String) (s : Setting) (l : Layer) : Setting :=
  l.entries.foldl (fun s (name, value) =>
    let (root, reach) := target name
    if root = key then s.assign reach value l.origin else s) s

/-- The order in which entries are come across that are kept in none. It can be another one in each
file and in each run. -/
structure EntryOrder where
  /-- The entries of a file, given how many files are before it. -/
  arrange : Nat → Table → Table
  arrange_perm : ∀ i entries, (arrange i entries).Perm entries
  /-- Of the two settings, `lower` is come across first. -/
  lowerFirst : Bool

namespace EntryOrder

/-- The entries as they stand in the files. -/
def asWritten : EntryOrder := ⟨fun _ entries => entries, fun _ entries => .refl entries, false⟩

def layers (order : EntryOrder) (ls : List Layer) : List Layer :=
  ls.mapIdx fun i l => { l with entries := order.arrange i l.entries }

end EntryOrder

end LineSieve.Settings
