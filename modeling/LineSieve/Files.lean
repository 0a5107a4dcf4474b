import LineSieve.Path
import LineSieve.SystemError
import LineSieve.Text.Utf8

/-!
# Files

What the system answers when a path is opened, and the directory from which relative paths start.

* `Files.file?`: the content of the file at a path.
-/

namespace LineSieve

/-- What a path leads to. -/
inductive FileEntry where
  | file (content : Bytes)
  | directory
  deriving DecidableEq, Repr

structure Files where
  /-- An absolute path. -/
  workingDirectory : String
  find : String → Except SystemError FileEntry

namespace Files

def absolute (files : Files) (path : String) : String := Path.join files.workingDirectory path

def file? (files : Files) (path : String) : Option Bytes :=
  match files.find path with
  | .ok (.file content) => some content
  | _ => none

end Files

end LineSieve
