import LineSieve.Expr.Parser
import LineSieve.SystemError
import LineSieve.Settings.Error

/-!
# Failures

Everything that can go wrong, by its cause, with the wording of the message and of the tip that may
follow it.

* `Failure.message`: what is wrong.
* `Failure.tip?`: how to put it right, for the failures that have such a tip.
* `Failure.report`: both as they are shown on a terminal.
-/

namespace LineSieve

inductive Failure where
  | lexical (error : LexicalError)
  | parse (error : ParseError)
  /-- A pattern is refused, for a reason in words. -/
  | pattern (text reason : String)
  /-- An operand stands at a level beyond the limit. -/
  | tooDeep (level : Nat)
  | system (error : SystemError)
  | settings (error : Settings.Error)
  deriving DecidableEq, Repr

namespace Failure

def message : Failure → String
  | lexical error => error.message
  | parse error => error.message
  | pattern text reason => "invalid regular expression " ++ Text.quote text ++ ": " ++ reason
  | tooDeep level => "too deep nesting level " ++ toString level
  | system error => error.text
  | settings error => "failed to load configuration: " ++ error.message

def bold (text : String) : String := "\x1b[1m" ++ text ++ "\x1b[0m"

def tip? : Failure → Option String
  | lexical (.invalidEscape _) =>
    some ("the only escape sequence allowed in a regex literal is " ++ bold "\\/")
  | lexical (.unclosedPattern _) =>
    some ("close the regex literal with " ++ bold "/" ++ " or use " ++ bold "\\/" ++
      " for a literal slash")
  | tooDeep _ =>
    some ("simplify the expression or raise the limit with " ++ bold "--max-depth")
  | _ => none

/-- The failure as it is shown: its message, and on a line of its own the tip. -/
def report (failure : Failure) : String :=
  let tip := match failure.tip? with
    | some tip => bold "\x1b[32m  tip:\x1b[39m" ++ " " ++ tip ++ "\n"
    | none => ""
  bold "\x1b[91merror:\x1b[39m" ++ " " ++ failure.message ++ "\n" ++ tip

end Failure

end LineSieve
