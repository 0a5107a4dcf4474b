import LineSieve.Log
import LineSieve.Pattern
import LineSieve.Text.Split

/-!
# Filters of logs

Which records of a log are shown. A filter is written as directives between commas: a level, the
beginning of the names of some parts of the program, or both with an equals sign between them. A
slash and a regular expression after them restrict the texts of the records.

* `LogFilter.parse`: reads a filter. What is not understood is left out.
* `LogFilter.shows`: whether a record is shown. The longest directive that applies decides.
-/

namespace LineSieve

/-- The most detailed level shown of the parts of the program with a name that begins so. -/
structure LogDirective where
  name : String
  level : Option LogLevel
  deriving DecidableEq, Repr

structure LogFilter where
  directives : List LogDirective
  pattern : Option Pattern

namespace LogFilter

/-- The level that a word names, in any case; `some none` is no level at all. -/
def level? (word : String) : Option (Option LogLevel) :=
  [("off", none), ("error", some .error), ("warn", some .warn), ("info", some .info),
    ("debug", some .debug), ("trace", some .trace)].lookup
    (String.ofList (word.toList.map Char.toLower))

def trim (s : String) : String :=
  let blank := Unicode.whiteSpace.contains
  String.ofList ((s.toList.dropWhile blank).reverse.dropWhile blank).reverse

/-- A directive, or why it is left out. -/
def directive (text : String) : Except String LogDirective :=
  match Text.splitAt '=' text with
  | [word] =>
    match level? word with
    | some level => .ok ⟨"", level⟩
    | none => .ok ⟨word, some .trace⟩
  | [name, word] =>
    let word := trim word
    if word.isEmpty then .ok ⟨name, some .trace⟩
    else
      match level? word with
      | some level => .ok ⟨name, level⟩
      | none => .error ("invalid logging spec '" ++ word ++ "'")
  | _ => .error ("invalid logging spec '" ++ text ++ "'")

/-- Puts a directive in the place of one with its name, or after all others. -/
def enter (d : LogDirective) : List LogDirective → List LogDirective
  | [] => [d]
  | e :: es => if e.name = d.name then d :: es else e :: enter d es

/-- Reads a filter, with what is wrong with it. -/
def parse (text : String) : LogFilter × List String :=
  let directivesOf (part : String) : List (Except String LogDirective) :=
    ((Text.splitAt ',' part).map trim |>.filter (· ≠ "")).map directive
  let collect (ds : List (Except String LogDirective)) : List LogDirective × List String :=
    (ds.foldl (fun es d => match d with
      | .ok d => enter d es
      | .error _ => es) [],
      ds.filterMap fun
      | .ok _ => none
      | .error e => some e)
  match Text.splitAt '/' text with
  | [part] =>
    let (ds, errors) := collect (directivesOf part)
    (⟨ds, none⟩, errors)
  | [part, pattern] =>
    let (ds, errors) := collect (directivesOf part)
    match Pattern.compile pattern with
    | .ok p => (⟨ds, some p⟩, errors)
    | .error reason => (⟨ds, none⟩, errors ++ ["invalid regex filter - " ++ reason])
  | _ => (⟨[], none⟩, ["invalid logging spec '" ++ text ++ "' (too many '/'s)"])

/-- Of the directives for the part of the program with a name, the one with the longest beginning;
of equally long ones the last. -/
def applying (directives : List LogDirective) (target : String) : Option LogDirective :=
  directives.foldl (fun best d =>
    if d.name.toList.isPrefixOf target.toList &&
        best.all fun b => b.name.utf8ByteSize ≤ d.name.utf8ByteSize then some d
    else best) none

/-- Whether a level is shown of the part of the program with a name. Without directives these are
errors only. -/
def enables (f : LogFilter) (level : LogLevel) (target : String) : Bool :=
  let directives := if f.directives.isEmpty then [⟨"", some .error⟩] else f.directives
  ((applying directives target).bind (·.level)).any fun limit => level.rank ≤ limit.rank

def shows (f : LogFilter) (r : LogRecord) : Bool :=
  f.enables r.level r.target && f.pattern.all (·.isMatch r.text)

/-- Only errors are shown. -/
def errorsOnly : LogFilter := ⟨[], none⟩

end LogFilter

end LineSieve
