import LineSieve.Failure
import LineSieve.Log

/-!
# Diagnostics

What a run of the program says beside its output, in order: records for the log, and failures that
are reported and passed over or that end the run.
-/

namespace LineSieve

inductive Diagnostic where
  | record (r : LogRecord)
  | report (failure : Failure)
  /-- A line of its own that is always shown. -/
  | line (text : String)
  deriving DecidableEq, Repr

namespace Diagnostic

/-- The failures that are reported. -/
def failures (ds : List Diagnostic) : List Failure :=
  ds.filterMap fun
    | report failure => some failure
    | _ => none

/-- A diagnostic as it is shown, where `shows` tells which records are. -/
def render (shows : LogRecord → Bool) : Diagnostic → String
  | record r => if shows r then r.render else ""
  | report failure => failure.report
  | line text => text ++ "\n"

end Diagnostic

end LineSieve
