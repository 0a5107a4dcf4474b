import LineSieve.Filter.Source
import LineSieve.Filter.Sink
import LineSieve.Matcher
import LineSieve.Unicode.CaseMap

/-!
# Filtering lines

A filter passes on the lines of a source that its condition keeps. A line ends with a line feed,
or with the source; one carriage return at its end is not part of it. What is passed on are the
bytes of the line and a line feed.

* `Filter.trimLine`: a line without its terminator.
* `Filter.keeps`: the condition of a matcher on the bytes of a line.
* `Filter.lines`: passes on the lines of a source.
-/

namespace LineSieve

namespace Filter

/-- Drops the last byte if it is `b`. -/
def dropLastIf (b : UInt8) (line : Bytes) : Bytes :=
  if line.getLast? = some b then line.dropLast else line

/-- The line without its line feed and without a carriage return before it. -/
def trimLine (line : Bytes) : Bytes :=
  dropLastIf Source.carriageReturn (dropLastIf Source.newline line)

/-- The text of a line that is matched: malformed bytes are replaced, and letters lower-cased if
that is asked for. -/
def lineText (lower : Bool) (line : Bytes) : String :=
  let text := Utf8.decodeLossy line
  if lower then Unicode.lowerCase text else text

/-- The matcher holds of the text of the line. -/
def keeps {P : Type} (engine : Engine P) (m : Matcher P) (lower : Bool) (line : Bytes) : Bool :=
  m.isMatch engine (lineText lower line)

/-- What a filter leaves behind: the sink, the rest of the source, and the number of lines passed
on or the error that ended it. -/
structure Outcome where
  sink : Sink
  rest : Source
  result : Except SystemError Nat

/-- Writes a line and a line feed. -/
def writeLine (sink : Sink) (line : Bytes) : Sink × Except SystemError Unit :=
  match sink.write line with
  | (sink, .ok ()) => sink.write [Source.newline]
  | (sink, .error e) => (sink, .error e)

/-- Passes on the lines of the source that `keep` holds of, after `count` lines before. -/
def linesFrom (keep : Bytes → Bool) (source : Source) (sink : Sink) (count : Nat) : Outcome :=
  match h : source.readLine with
  | .error e => ⟨sink, source, .error e⟩
  | .ok ([], rest) => ⟨sink, rest, .ok count⟩
  | .ok (b :: bs, rest) =>
    have := Source.size_of_readLine h
    if keep (trimLine (b :: bs)) then
      match writeLine sink (trimLine (b :: bs)) with
      | (sink, .ok ()) => linesFrom keep rest sink (count + 1)
      | (sink, .error e) => ⟨sink, rest, .error e⟩
    else linesFrom keep rest sink count
  termination_by source.size
  decreasing_by all_goals (simp only [List.length_cons] at this; omega)

/-- Passes on the lines of the source that `keep` holds of, and counts them. -/
def lines (keep : Bytes → Bool) (source : Source) (sink : Sink) : Outcome :=
  linesFrom keep source sink 0

end Filter

end LineSieve
