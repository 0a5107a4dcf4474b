import LineSieve.Pattern.Position

/-!
# Faults of patterns

What can be wrong with a pattern, and how the fault is shown: the pattern, below it carets under
the span at fault, and a line of explanation. A pattern of several lines is shown with line
numbers between two rules, and a span over several lines is named instead of marked.
-/

namespace LineSieve.Pattern

inductive FaultKind where
  | classEscapeInvalid
  | classRangeInvalid
  | classRangeLiteral
  | classUnclosed
  | decimalEmpty
  | decimalInvalid
  | escapeHexEmpty
  | escapeHexInvalid
  | escapeHexInvalidDigit
  | escapeUnexpectedEnd
  | escapeUnrecognized
  | flagDanglingNegation
  | flagDuplicate
  | flagRepeatedNegation
  | flagUnexpectedEnd
  | flagUnrecognized
  | groupNameDuplicate
  | groupNameEmpty
  | groupNameInvalid
  | groupNameUnexpectedEnd
  | groupUnclosed
  | groupUnopened
  | nestLimitExceeded (limit : Nat)
  | repetitionCountInvalid
  | repetitionCountDecimalEmpty
  | repetitionCountUnclosed
  | repetitionMissing
  | specialBoundaryUnclosed
  | specialBoundaryUnrecognized
  | specialBoundaryUnexpectedEnd
  | propertyClassInvalid
  | backreference
  | lookAround
  | unicodeNotAllowed
  | invalidUtf8
  | propertyNotFound
  | propertyValueNotFound
  deriving DecidableEq, Repr

namespace FaultKind

def message : FaultKind → String
  | classEscapeInvalid => "invalid escape sequence found in character class"
  | classRangeInvalid => "invalid character class range, the start must be <= the end"
  | classRangeLiteral => "invalid range boundary, must be a literal"
  | classUnclosed => "unclosed character class"
  | decimalEmpty => "decimal literal empty"
  | decimalInvalid => "decimal literal invalid"
  | escapeHexEmpty => "hexadecimal literal empty"
  | escapeHexInvalid => "hexadecimal literal is not a Unicode scalar value"
  | escapeHexInvalidDigit => "invalid hexadecimal digit"
  | escapeUnexpectedEnd => "incomplete escape sequence, reached end of pattern prematurely"
  | escapeUnrecognized => "unrecognized escape sequence"
  | flagDanglingNegation => "dangling flag negation operator"
  | flagDuplicate => "duplicate flag"
  | flagRepeatedNegation => "flag negation operator repeated"
  | flagUnexpectedEnd => "expected flag but got end of regex"
  | flagUnrecognized => "unrecognized flag"
  | groupNameDuplicate => "duplicate capture group name"
  | groupNameEmpty => "empty capture group name"
  | groupNameInvalid => "invalid capture group character"
  | groupNameUnexpectedEnd => "unclosed capture group name"
  | groupUnclosed => "unclosed group"
  | groupUnopened => "unopened group"
  | nestLimitExceeded limit =>
    "exceed the maximum number of nested parentheses/brackets (" ++ toString limit ++ ")"
  | repetitionCountInvalid => "invalid repetition count range, the start must be <= the end"
  | repetitionCountDecimalEmpty => "repetition quantifier expects a valid decimal"
  | repetitionCountUnclosed => "unclosed counted repetition"
  | repetitionMissing => "repetition operator missing expression"
  | specialBoundaryUnclosed =>
    "special word boundary assertion is either unclosed or contains an invalid character"
  | specialBoundaryUnrecognized =>
    "unrecognized special word boundary assertion, " ++
      "valid choices are: start, end, start-half or end-half"
  | specialBoundaryUnexpectedEnd =>
    "found either the beginning of a special word boundary or a bounded repetition on a \\b " ++
      "with an opening brace, but no closing brace"
  | propertyClassInvalid => "invalid Unicode character class"
  | backreference => "backreferences are not supported"
  | lookAround => "look-around, including look-ahead and look-behind, is not supported"
  | unicodeNotAllowed => "Unicode not allowed here"
  | invalidUtf8 => "pattern can match invalid UTF-8"
  | propertyNotFound => "Unicode property not found"
  | propertyValueNotFound => "Unicode property value not found"

end FaultKind

structure Fault where
  kind : FaultKind
  span : Span
  /-- An earlier span that the fault refers to, such as the first of two equal names. -/
  other : Option Span
  deriving Repr

namespace Fault

/-! ## Lines -/

/-- The lines of a text. A line feed ends a line, and a carriage return before it is not part of
the line; the text after the last line feed is a line if it is not empty. -/
def linesOf (cs : List Char) : List (List Char) :=
  let (line, lines) := cs.foldr (fun c (line, lines) =>
    if c = '\n' then ([], line :: lines) else (c :: line, lines)) ([], [])
  trim (line :: lines)
where
  trim : List (List Char) → List (List Char)
    | [] => []
    | [last] => if last.isEmpty then [] else [last]
    | line :: rest =>
      (if line.getLast? = some '\r' then line.dropLast else line) :: trim rest

/-! ## Marks -/

/-- Carets under the spans of one line, given in order. -/
def carets (column : Nat) : List Span → List Char
  | [] => []
  | s :: rest =>
    let blanks := s.start.column - 1 - column
    let width := max 1 (s.stop.column - s.start.column)
    List.replicate blanks ' ' ++ List.replicate width '^' ++ carets (column + blanks + width) rest

def padLeft (width : Nat) (cs : List Char) : List Char :=
  List.replicate (width - cs.length) ' ' ++ cs

/-- The lines of the pattern, each with its marks below it. `width` is that of the line numbers; at
zero there are none. -/
def notate (width : Nat) (spans : List Span) (number : Nat) : List (List Char) → List Char
  | [] => []
  | line :: rest =>
    let label := if width = 0 then [' ', ' ', ' ', ' ']
      else padLeft width (toString number).toList ++ [':', ' ']
    let here := spans.filter fun s => s.onOneLine && s.start.line = number
    let marks := if here.isEmpty then []
      else List.replicate label.length ' ' ++ carets 0 here ++ ['\n']
    label ++ line ++ ['\n'] ++ marks ++ notate width spans (number + 1) rest

def spanNote (s : Span) : String :=
  "on line " ++ toString s.start.line ++ " (column " ++ toString s.start.column ++
    ") through line " ++ toString s.stop.line ++ " (column " ++ toString (s.stop.column - 1) ++ ")"

/-- The fault as it is shown for the pattern. -/
def render (fault : Fault) (pattern : String) : String :=
  let cs := pattern.toList
  let lines := linesOf cs
  let count := lines.length + (if cs.getLast? = some '\n' then 1 else 0)
  let width := if count ≤ 1 then 0 else (toString count).length
  let spans := (fault.span :: fault.other.toList).mergeSort Span.le
  let notes := String.ofList (notate width spans 1 lines)
  let explanation := "error: " ++ fault.kind.message
  if cs.contains '\n' then
    let rule := String.ofList (List.replicate 79 '~') ++ "\n"
    let wide := spans.filter fun s => !s.onOneLine
    let wideNotes := if wide.isEmpty then "" else "\n".intercalate (wide.map spanNote) ++ "\n"
    "regex parse error:\n" ++ rule ++ notes ++ rule ++ wideNotes ++ explanation
  else "regex parse error:\n" ++ notes ++ explanation

end Fault

end LineSieve.Pattern
