import LineSieve.Pattern.Translation
import LineSieve.Pattern.Size

/-!
# Patterns

A pattern that has been read: its text and the regular expression it stands for.

* `Pattern.compile`: reads a pattern, or says why it is refused.
* `Pattern.isMatch`: the pattern matches somewhere in a text.
-/

namespace LineSieve

structure Pattern where
  text : String
  regex : Pattern.Regex

namespace Pattern

/-- Reads a pattern. The error is the text that explains the refusal. -/
def compile (text : String) : Except String Pattern := do
  let shown (fault : Fault) : String := fault.render text
  let tree ← (Parser.parse text).mapError shown
  let (regex, _) ← (Translation.regex .initial tree).mapError shown
  if Size.exceeds regex then
    throw ("Compiled regex exceeds size limit of " ++ toString Size.limit ++ " bytes.")
  return ⟨text, regex⟩

def isMatch (p : Pattern) (text : String) : Bool := p.regex.isMatch text

end Pattern

end LineSieve
