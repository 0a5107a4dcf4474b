import LineSieve.Unicode.Property
import LineSieve.Unicode.Script

/-!
# Properties by name

The set of characters that a property name stands for. In names, case, blanks, underscores, hyphens
and the word `is` before them do not matter.

* `setNamed?`: a property, a general category or a script.
* `setValued?`: a general category or a script, by the name of the property and its value.
-/

namespace LineSieve.Unicode

/-- The form in which names are compared. -/
def normalName (name : String) : String :=
  let plain := name.toList.filterMap fun c =>
    if c = ' ' || c = '_' || c = '-' || 128 ≤ c.toNat then none else some c.toLower
  match name.toList.map Char.toLower with
  | 'i' :: 's' :: _ =>
    let rest := plain.drop 2
    if rest = ['c'] then "isc" else String.ofList rest
  | _ => String.ofList plain

def NamedTable.isNamed (t : NamedTable) (name : String) : Bool :=
  normalName t.short = name || normalName t.long = name

/-- The general category of a name in its compared form. -/
def category? (name : String) : Option CharSet :=
  match name with
  | "any" => some .full
  | "assigned" => some assigned
  | "ascii" => some (.ofRanges [⟨0, 127⟩])
  | "cn" => some assigned.complement
  | "unassigned" => some assigned.complement
  | "c" => some other
  | "other" => some other
  | name =>
    let aliased := match name with
      | "punct" => "punctuation"
      | "digit" => "decimalnumber"
      | "cntrl" => "control"
      | "combiningmark" => "mark"
      | name => name
    match categoryGroups.find? fun (s, l, _) =>
        normalName s = aliased || normalName l = aliased with
    | some (_, _, initials) => some (categoriesStarting initials)
    | none => (categoryTables.find? (·.isNamed aliased)).map fun t => .ofTable t.table
where
  other : CharSet := (categoriesStarting ["C"]).union assigned.complement

/-- The script of a name in its compared form. -/
def script? (name : String) : Option CharSet :=
  let aliased := match name with
    | "qaac" => "coptic"
    | "qaai" => "inherited"
    | name => name
  (scriptTables.find? (·.isNamed aliased)).map fun t => .ofTable t.table

/-- The property of a name in its compared form that characters have or lack. -/
def property? : String → Option CharSet
  | "alphabetic" => some alphabetic
  | "alpha" => some alphabetic
  | "cased" => some cased
  | "caseignorable" => some caseIgnorable
  | "ci" => some caseIgnorable
  | "graphemeextend" => some graphemeExtend
  | "grext" => some graphemeExtend
  | "joincontrol" => some joinControl
  | "joinc" => some joinControl
  | "whitespace" => some whiteSpace
  | "wspace" => some whiteSpace
  | "space" => some whiteSpace
  | _ => none

/-- The set that a name alone stands for. -/
def setNamed? (name : String) : Option CharSet :=
  let name := normalName name
  ((property? name).or (category? name)).or (script? name)

/-- Why a property and its value stand for no set. -/
inductive ValueFault where
  | unknownProperty
  | unknownValue

/-- The set of the characters for which the property has the value. -/
def setValued? (name value : String) : Except ValueFault CharSet :=
  let found : Option CharSet → Except ValueFault CharSet
    | some s => .ok s
    | none => .error .unknownValue
  match normalName name with
  | "gc" => found (category? (normalName value))
  | "generalcategory" => found (category? (normalName value))
  | "sc" => found (script? (normalName value))
  | "script" => found (script? (normalName value))
  | _ => .error .unknownProperty

end LineSieve.Unicode
