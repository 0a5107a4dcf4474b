/-!
# Values of settings files

What the formats of settings files can say.
-/

namespace LineSieve.Settings

inductive Value where
  | null
  | boolean (b : Bool)
  | integer (n : Int)
  | real (x : Float)
  | text (s : String)
  | list (items : List Value)
  | table (entries : List (String × Value))
  deriving Inhabited

/-- The entries of the top level of a settings file, with distinct names. -/
abbrev Table := List (String × Value)

namespace Table

/-- Sets an entry, in its old place if there is one. -/
def insert (name : String) (value : Value) : Table → Table
  | [] => [(name, value)]
  | (n, v) :: rest =>
    if n = name then (name, value) :: rest else (n, v) :: insert name value rest

def find? (name : String) (t : Table) : Option Value := (t.lookup name)

end Table

end LineSieve.Settings
