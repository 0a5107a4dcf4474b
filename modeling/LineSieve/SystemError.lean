/-!
# Errors of the system

What the system answers when a file cannot be opened or bytes cannot be read or written: the kind
of the error and its text.
-/

namespace LineSieve

inductive SystemErrorKind where
  | notFound
  | notADirectory
  | invalidInput
  | invalidFilename
  | filesystemLoop
  | permissionDenied
  | connectionReset
  | brokenPipe
  | storageFull
  | other
  deriving DecidableEq, Repr

structure SystemError where
  kind : SystemErrorKind
  text : String
  deriving DecidableEq, Repr

namespace SystemError

/-- An error with a number, as the system words it. -/
def numbered (kind : SystemErrorKind) (text : String) (number : Nat) : SystemError :=
  ⟨kind, text ++ " (os error " ++ toString number ++ ")"⟩

def notFound : SystemError := numbered .notFound "No such file or directory" 2

def notADirectory : SystemError := numbered .notADirectory "Not a directory" 20

def fileNameTooLong : SystemError := numbered .invalidFilename "File name too long" 36

def storageFull : SystemError := numbered .storageFull "No space left on device" 28

def brokenPipe : SystemError := numbered .brokenPipe "Broken pipe" 32

end SystemError

end LineSieve
