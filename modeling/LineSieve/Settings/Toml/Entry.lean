import LineSieve.Settings.Value

/-!
# Entries of TOML files

The tables of a file while it is read. A table remembers how it came about, for that decides what
may still be added to it: a table can be opened by one heading only, keys with dots extend what
such keys or longer headings made, and a table in braces is complete.

* `assign?`: the entries with one more, at a key with dots.
* `open?`: the entries with the table of a heading.
* `append?`: the entries with one more table in the list of a heading in double brackets.
* `update?`: the entries with the table of a heading changed.
-/

namespace LineSieve.Settings.Toml

/-- How a table came about. -/
inductive Making where
  /-- By the heading of a table below it. -/
  | implied
  /-- By a key with dots. -/
  | dotted
  /-- By a heading of its own. -/
  | headed
  deriving DecidableEq

inductive Entry where
  /-- A value, which may be a list or a table in braces. -/
  | value (v : Value)
  | table (making : Making) (entries : List (String × Entry))
  /-- The tables of a heading in double brackets, the last one first. -/
  | tables (items : List (List (String × Entry)))
  deriving Inhabited

abbrev Entries := List (String × Entry)

namespace Entries

def find? (name : String) (es : Entries) : Option Entry := es.lookup name

/-- Changes the entry with a name, or makes one. -/
def alter? (name : String) (change : Option Entry → Option Entry) : Entries → Option Entries
  | [] => (change none).map fun e => [(name, e)]
  | (n, e) :: es =>
    if n = name then (change (some e)).map fun e => (n, e) :: es
    else (alter? name change es).map ((n, e) :: ·)

/-- Enters a value at a key with dots. -/
def assign? (v : Value) : List String → Entries → Option Entries
  | [], _ => none
  | [name], es =>
    alter? name (fun
      | none => some (.value v)
      | some _ => none) es
  | name :: names, es =>
    alter? name (fun
      | none => (assign? v names []).map (.table .dotted)
      | some (.table .headed _) => none
      | some (.table making below) => (assign? v names below).map (.table making)
      | some _ => none) es

/-- Changes the entries that a heading without its last name leads to, where tables are made as
needed. -/
def reach? (change : String → Entries → Option Entries) : List String → Entries → Option Entries
  | [], _ => none
  | [name], es => change name es
  | name :: names, es =>
    alter? name (fun
      | none => (reach? change names []).map (.table .implied)
      | some (.table making below) => (reach? change names below).map (.table making)
      | some (.tables (last :: items)) =>
        (reach? change names last).map fun last => .tables (last :: items)
      | some _ => none) es

/-- Opens the table of a heading. -/
def open? : List String → Entries → Option Entries :=
  reach? fun name => alter? name fun
    | none => some (.table .headed [])
    | some (.table .implied below) => some (.table .headed below)
    | some _ => none

/-- Adds a table to the list of a heading in double brackets. -/
def append? : List String → Entries → Option Entries :=
  reach? fun name => alter? name fun
    | none => some (.tables [[]])
    | some (.tables items) => some (.tables ([] :: items))
    | some _ => none

/-- Changes the table that was opened or added last at a heading; without a heading this is the
table of the file. -/
def update? (change : Entries → Option Entries) : List String → Entries → Option Entries
  | [], es => change es
  | name :: names, es =>
    alter? name (fun
      | some (.table making below) => (update? change names below).map (.table making)
      | some (.tables (last :: items)) =>
        (update? change names last).map fun last => .tables (last :: items)
      | _ => none) es

end Entries

mutual

/-- The value that an entry amounts to. -/
def Entry.toValue : Entry → Value
  | .value v => v
  | .table _ entries => .table (entriesToTable entries)
  | .tables items => .list (itemsToValues items).reverse

def entriesToTable : List (String × Entry) → Table
  | [] => []
  | (name, e) :: es => (name, e.toValue) :: entriesToTable es

def itemsToValues : List (List (String × Entry)) → List Value
  | [] => []
  | es :: items => .table (entriesToTable es) :: itemsToValues items

end

end LineSieve.Settings.Toml
