import LineSieve.Text.Quoted

/-!
# Errors of settings

Why settings cannot be loaded, and the wording of it.
-/

namespace LineSieve.Settings

/-- A value of the wrong type. -/
structure Mismatch where
  /-- What the value is, in words. -/
  found : String
  expected : String
  key : String
  /-- The file that the value is from. -/
  origin : Option String
  deriving DecidableEq, Repr

inductive Error where
  | missing (path : String)
  | unsupported (path : String)
  /-- A file is not well-formed for its format, or is no table. -/
  | malformed (origin : String)
  | mismatch (m : Mismatch)
  | other (text : String)
  deriving DecidableEq, Repr

namespace Error

def message : Error → String
  | missing path => "configuration file \"" ++ path ++ "\" not found"
  | unsupported path => "configuration file \"" ++ path ++ "\" is not of a supported file format"
  | malformed origin => "malformed content in " ++ origin
  | mismatch m =>
    "invalid type: " ++ m.found ++ ", expected " ++ m.expected ++ " for key `" ++ m.key ++ "`" ++
      match m.origin with
      | some origin => " in " ++ origin
      | none => ""
  | other text => text

end Error

end LineSieve.Settings
