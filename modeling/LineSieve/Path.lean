import LineSieve.Text.Split

/-!
# Paths

Paths of files as texts, with their parts between slashes.

* `Path.join`: a path seen from a directory.
* `Path.components`: the parts that matter for where the path leads, as written.
* `Path.extension?`: the end of the file name after its last dot.
* `Path.appendExtension`: the path with an extension after its file name.
* `Path.relativeTo`: the path as seen from a directory.
-/

namespace LineSieve.Path

def isAbsolute (path : String) : Bool := path.toList.head? == some '/'

/-- The path `path` in the directory `dir`. An absolute path stands for itself. -/
def join (dir path : String) : String :=
  if isAbsolute path then path
  else if dir.isEmpty || dir.toList.getLast? == some '/' then dir ++ path
  else dir ++ "/" ++ path

/-- The texts between slashes, which may be empty. -/
def segments (path : String) : List String := Text.splitAt '/' path

/-- The parts of a path without those that lead nowhere. A leading dot of a relative path is one
of these as well. -/
def components (path : String) : List String :=
  (segments path).filter fun s => !s.isEmpty && s != "."

/-- The name that the path ends in; `none` if it ends in a step up or has no parts. -/
def fileName? (path : String) : Option String :=
  match (components path).getLast? with
  | some ".." => none
  | name => name

/-- A file name as what comes before its last dot and what comes after. A dot at the start does not
count. -/
def splitName (name : String) : String × Option String :=
  let cs := name.toList
  let after := (cs.reverse.takeWhile (· != '.')).reverse
  let before := (cs.reverse.dropWhile (· != '.')).drop 1 |>.reverse
  if before.isEmpty then (name, none) else (String.ofList before, some (String.ofList after))

def extension? (path : String) : Option String := (fileName? path).bind fun n => (splitName n).2

/-- The path up to its last name. -/
def parentText (path : String) : String :=
  let trimmed := path.toList.reverse.dropWhile (· == '/')
  String.ofList (trimmed.dropWhile (· != '/')).reverse

/-- Appends `.ext` to the file name of a path. -/
def appendExtension (path ext : String) : String :=
  match fileName? path with
  | none => path
  | some name => parentText path ++ name ++ "." ++ ext

/-- The components of `path`, an absolute path, as seen from the absolute directory `base`. -/
def relativeComponents : (path base : List String) → List String
  | [], base => base.map fun _ => ".."
  | path, [] => path
  | p :: path, b :: base =>
    if p = b then relativeComponents path base
    else (b :: base).map (fun _ => "..") ++ p :: path

def relativeTo (base path : String) : String :=
  "/".intercalate (relativeComponents (components path) (components base))

end LineSieve.Path
