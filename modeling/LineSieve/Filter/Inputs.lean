import LineSieve.Diagnostic
import LineSieve.Filter.Lines
import LineSieve.Input

/-!
# Filtering inputs

A filter passes on the lines of several inputs one after the other. An input that cannot be opened
is reported and passed over. An error of reading or writing ends the filter, and inputs after it
are not opened.

* `Filter.inputs`: passes on the lines of inputs and flushes the sink.
-/

namespace LineSieve.Filter

/-- What filtering inputs leaves behind. -/
structure Passage where
  sink : Sink
  diagnostics : List Diagnostic
  result : Except SystemError Unit

namespace Passage

/-- The passage with diagnostics in front. -/
def after (d : Diagnostic) (p : Passage) : Passage := { p with diagnostics := d :: p.diagnostics }

end Passage

/-- The record of an input that is done. -/
def countRecord (input : Input) (n : Nat) : LogRecord :=
  ⟨.debug, "bmatch::app", toString n ++ " matching lines in " ++ input.description⟩

/-- Passes on the lines of inputs that `keep` holds of. `openInput` opens an input given what is
left of the standard input. -/
def inputs (keep : Bytes → Bool) (openInput : Source → Input → Except SystemError Source)
    (stdin : Source) (sink : Sink) : List Input → Passage
  | [] =>
    let (sink, result) := sink.flush
    ⟨sink, [], result⟩
  | input :: rest =>
    match openInput stdin input with
    | .error e =>
      (inputs keep openInput stdin sink rest).after (.report (.system e))
    | .ok source =>
      let outcome := lines keep source sink
      let stdin := if input = .standard then outcome.rest else stdin
      match outcome.result with
      | .ok n =>
        (inputs keep openInput stdin outcome.sink rest).after (.record (countRecord input n))
      | .error e => ⟨outcome.sink, [], .error e⟩

end LineSieve.Filter
