/-!
# Logs

A record of what the program does: its level, the part of the program it comes from, and its text.
-/

namespace LineSieve

/-- Levels of detail, from the least to the most. -/
inductive LogLevel where
  | error
  | warn
  | info
  | debug
  | trace
  deriving DecidableEq, Repr

namespace LogLevel

def name : LogLevel → String
  | error => "ERROR"
  | warn => "WARN"
  | info => "INFO"
  | debug => "DEBUG"
  | trace => "TRACE"

/-- The place of the level in the order of detail, from one on. -/
def rank : LogLevel → Nat
  | error => 1
  | warn => 2
  | info => 3
  | debug => 4
  | trace => 5

end LogLevel

structure LogRecord where
  level : LogLevel
  target : String
  text : String
  deriving DecidableEq, Repr

/-- A record as it is shown, on a line of its own. -/
def LogRecord.render (r : LogRecord) : String :=
  "[" ++ r.level.name ++ " " ++ r.target ++ "] " ++ r.text ++ "\n"

end LineSieve
