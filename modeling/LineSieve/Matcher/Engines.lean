import LineSieve.Matcher
import LineSieve.Pattern

/-!
# Engines

* `Engine.patterns`: regular expressions, which match anywhere in a text.
* `Engine.beginnings`: literals that match at the start of a text.
* `Engine.occurrences`: literals that match where they occur; those that begin with an exclamation
  mark are refused.
-/

namespace LineSieve.Engine

def patterns : Engine Pattern := ⟨Pattern.compile, Pattern.isMatch⟩

def beginnings : Engine String where
  compile text := if text.isEmpty then .error "empty prefix" else .ok text
  isMatch p text := (Utf8.encode p).isPrefixOf (Utf8.encode text)

def occurrences : Engine String where
  compile text :=
    match text.toList with
    | '!' :: rest => .error ("rejected " ++ String.ofList rest)
    | _ => .ok text
  isMatch := Substring.occursIn

end LineSieve.Engine
