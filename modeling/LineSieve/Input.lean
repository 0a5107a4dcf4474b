import LineSieve.Files
import LineSieve.Filter.Source
import LineSieve.Text.Quoted

/-!
# Inputs

Where lines come from: a file, or the standard input, which is named by a single dash.

* `Input.ofName`: the input of a name.
* `Input.description`: what the input is called in messages.
* `Input.source`: the source of the bytes of an input.
-/

namespace LineSieve

inductive Input where
  | standard
  | file (path : String)
  deriving DecidableEq, Repr

namespace Input

def ofName (name : String) : Input := if name = "-" then standard else file name

def description : Input → String
  | standard => "<stdin>"
  | file path => "file " ++ Text.quote path

/-- An error of opening an input, which names it. -/
def openError (input : Input) (kind : SystemErrorKind) (reason : String) : SystemError :=
  ⟨kind, "failed to open " ++ input.description ++ ": " ++ reason⟩

/-- The content of the file at a path; a directory cannot be opened. -/
def content (files : Files) (path : String) : Except SystemError Bytes :=
  match files.find path with
  | .ok (.file bytes) => .ok bytes
  | .ok .directory => .error ((file path).openError .invalidInput "is a directory")
  | .error e => .error ((file path).openError e.kind e.text)

/-- The source of an input, where `stdin` is what is left of the standard input. -/
def source (files : Files) (stdin : Source) : Input → Except SystemError Source
  | standard => .ok stdin
  | file path => (content files path).map Source.ofBytes

end Input

end LineSieve
