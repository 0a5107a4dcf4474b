import LineSieve.Filter.Inputs
import LineSieve.Matcher.Engines
import LineSieve.Proofs.Filter.Passing

/-!
# Several inputs

Inputs are filtered one after the other into one sink. What comes of this is put together from what
opening each input comes to and from what filtering its source alone would write.

* `Opening`, `openings`: inputs and what opening them comes to, where the standard input has nothing
  left once it has been read to its end (`stdinAfter`).
* `inputs_cons`: one input that cannot be opened, or that is read to its end. It leaves the sink as
  writing its lines does, and one diagnostic.
* `inputs_append`: a run goes through such inputs as if each was alone, and on with those after
  them.
* `inputs_of_fault`: reading that fails ends the run.
* `inputs_separately`: the whole run, with and without such a failure, and with an input that cannot
  be opened left out.
-/

namespace LineSieve.Filter

open Source

theorem output_flatMap {α : Type} (f : α → List Bytes) (as : List α) :
    output (as.flatMap f) = as.flatMap fun a => output (f a) := List.flatMap_assoc

/-! ## Openings -/

/-- An input and what opening it comes to. -/
structure Opening where
  input : Input
  result : Except SystemError Source

namespace Opening

/-- If the input is opened, then reading it does not fail. -/
def Complete (o : Opening) : Prop := ∀ source, o.result = .ok source → source.fault = none

variable (keep : Bytes → Bool)

/-- What filtering the input alone writes. -/
def contribution (o : Opening) : Bytes :=
  match o.result with
  | .ok source => (lines keep source (.unbuffered .unlimited)).sink.device.written
  | .error _ => []

/-- The lines of the input that are kept. -/
def kept (o : Opening) : List Bytes :=
  match o.result with
  | .ok source => source.lines.filter keep
  | .error _ => []

/-- What is said about the input once it is done with. -/
def said (o : Opening) : Diagnostic :=
  match o.result with
  | .ok source => .record (countRecord o.input (source.lines.filter keep).length)
  | .error e => .report (.system e)

/-- What is left of the standard input after this one. -/
def stdinAfter (o : Opening) (stdin : Source) : Source :=
  match o.result with
  | .ok _ => if o.input = .standard then .empty else stdin
  | .error _ => stdin

theorem contribution_eq (o : Opening) : o.contribution keep = output (o.kept keep) := by
  unfold contribution kept
  split
  · rename_i source _
    exact (lines_unbuffered keep source).2
  · rfl

theorem newline_not_mem_of_mem_kept {keep : Bytes → Bool} {o : Opening} {line : Bytes}
    (h : line ∈ o.kept keep) : newline ∉ line := by
  unfold kept at h
  split at h
  · exact newline_not_mem_of_mem_lines (List.mem_filter.mp h).1
  · cases h

end Opening

theorem flatMap_contribution (keep : Bytes → Bool) (os : List Opening) :
    os.flatMap (·.contribution keep) = output (os.flatMap (·.kept keep)) := by
  rw [output_flatMap]
  exact congrArg (os.flatMap ·) (funext (Opening.contribution_eq keep))

section

variable (openInput : Source → Input → Except SystemError Source)

/-- Inputs, opened one after the other. -/
def openings (stdin : Source) : List Input → List Opening
  | [] => []
  | input :: rest =>
    let o : Opening := ⟨input, openInput stdin input⟩
    o :: openings (o.stdinAfter stdin) rest

/-- What is left of the standard input after inputs. -/
def stdinAfter (stdin : Source) : List Input → Source
  | [] => stdin
  | input :: rest => stdinAfter (Opening.stdinAfter ⟨input, openInput stdin input⟩ stdin) rest

end

section

variable {openInput openInput' : Source → Input → Except SystemError Source}

theorem openings_congr {first : List Input}
    (h : ∀ input ∈ first, ∀ s, openInput' s input = openInput s input) (stdin : Source) :
    openings openInput' stdin first = openings openInput stdin first ∧
      stdinAfter openInput' stdin first = stdinAfter openInput stdin first := by
  induction first generalizing stdin with
  | nil => exact ⟨rfl, rfl⟩
  | cons input rest ih =>
    obtain ⟨hInput, hRest⟩ := List.forall_mem_cons.mp h
    rw [openings, openings, stdinAfter, stdinAfter, hInput stdin]
    obtain ⟨hOpenings, hStdin⟩ := ih hRest (Opening.stdinAfter ⟨input, openInput stdin input⟩ stdin)
    exact ⟨congrArg (_ :: ·) hOpenings, hStdin⟩

end

/-! ## One input -/

section

variable {keep : Bytes → Bool} {openInput : Source → Input → Except SystemError Source}
variable {stdin : Source} {sink sink' : Sink}

theorem inputs_cons {input : Input} {o : Opening} (hOpening : o = ⟨input, openInput stdin input⟩)
    (hComplete : o.Complete) (hWrite : sink.writeEach (pieces (o.kept keep)) = (sink', .ok ()))
    (rest : List Input) :
    inputs keep openInput stdin sink (input :: rest) =
      (inputs keep openInput (o.stdinAfter stdin) sink' rest).after (o.said keep) := by
  subst hOpening
  cases hOpen : openInput stdin input with
  | error e =>
    rw [hOpen] at hWrite
    cases hWrite
    simp only [inputs, hOpen, Opening.stdinAfter, Opening.said]
  | ok source =>
    rw [hOpen] at hWrite
    have hFault : source.fault = none := hComplete source hOpen
    obtain ⟨hSink, hResult⟩ := linesFrom_eq keep source sink 0
    dsimp only [Opening.kept] at hWrite
    rw [hWrite, Nat.zero_add] at hResult
    rw [hWrite] at hSink
    rw [hFault] at hResult
    have hRest := rest_linesFrom hResult
    simp only [inputs, hOpen, lines, hSink, hResult, hRest, verdict, Opening.stdinAfter,
      Opening.said]

/-- Reading that fails ends the run once the lines before the failure are written. -/
theorem inputs_of_fault {input : Input} {source : Source} {e : SystemError}
    (hOpen : openInput stdin input = .ok source) (hFault : source.fault = some e)
    (hWrite : sink.writeEach (pieces (source.lines.filter keep)) = (sink', .ok ()))
    (later : List Input) :
    inputs keep openInput stdin sink (input :: later) = ⟨sink', [], .error e⟩ := by
  obtain ⟨hSink, hResult⟩ := linesFrom_eq keep source sink 0
  rw [hWrite, hFault] at hResult
  rw [hWrite] at hSink
  simp only [inputs, hOpen, lines, hSink, hResult, verdict]

/-! ## Many inputs -/

theorem foldr_after (ds : List Diagnostic) (p : Passage) :
    ds.foldr Passage.after p = ⟨p.sink, ds ++ p.diagnostics, p.result⟩ := by
  induction ds with
  | nil => rfl
  | cons d ds ih =>
    rw [List.foldr_cons, ih]
    rfl

theorem inputs_append {first : List Input}
    (hComplete : ∀ o ∈ openings openInput stdin first, o.Complete)
    (hWrite : sink.writeEach (pieces ((openings openInput stdin first).flatMap (·.kept keep))) =
      (sink', .ok ()))
    (later : List Input) :
    inputs keep openInput stdin sink (first ++ later) =
      ((openings openInput stdin first).map (·.said keep)).foldr Passage.after
        (inputs keep openInput (stdinAfter openInput stdin first) sink' later) := by
  induction first generalizing stdin sink with
  | nil =>
    cases hWrite
    rfl
  | cons input first ih =>
    rw [openings] at hComplete hWrite ⊢
    obtain ⟨hInput, hFirst⟩ := List.forall_mem_cons.mp hComplete
    rw [List.flatMap_cons, pieces_append] at hWrite
    obtain ⟨sink₁, hWriteInput, hWriteFirst⟩ := Sink.exists_of_writeEach_append hWrite
    rw [List.cons_append, inputs_cons rfl hInput hWriteInput, ih hFirst hWriteFirst, stdinAfter]
    rfl

/-- Where there is room and no reading fails, each input adds what it would write alone. -/
theorem inputs_of_complete {ins : List Input}
    (hComplete : ∀ o ∈ openings openInput stdin ins, o.Complete)
    (hRoom : sink.HasRoom
      ((openings openInput stdin ins).flatMap (·.contribution keep)).length) :
    ∃ sink', inputs keep openInput stdin sink ins =
        ⟨sink', (openings openInput stdin ins).map (·.said keep), .ok ()⟩ ∧
      sink'.device.written =
        sink.accepted ++ (openings openInput stdin ins).flatMap (·.contribution keep) := by
  rw [flatMap_contribution] at hRoom ⊢
  obtain ⟨sink₁, hWrite, hRoom₁, hAccepted⟩ := writeEach_pieces_of_room (n := 0) hRoom
  obtain ⟨sink₂, hFlush, -, hPending, hFlushed⟩ := Sink.flush_of_room hRoom₁
  have hRun := inputs_append hComplete hWrite []
  rw [List.append_nil, foldr_after, inputs, hFlush] at hRun
  refine ⟨sink₂, by rw [hRun, List.append_nil], ?_⟩
  rw [← hAccepted, ← hFlushed, Sink.accepted, hPending, List.append_nil]

/-- Where there is room and the reading of an input fails, nothing depends on the inputs after it or
on what opening them would come to. -/
theorem inputs_up_to_fault {first : List Input} {input : Input} {source : Source} {e : SystemError}
    (hComplete : ∀ o ∈ openings openInput stdin first, o.Complete)
    (hOpen : openInput (stdinAfter openInput stdin first) input = .ok source)
    (hFault : source.fault = some e)
    (hRoom : sink.HasRoom ((openings openInput stdin first).flatMap (·.contribution keep) ++
      output (source.lines.filter keep)).length) :
    ∃ sink', sink'.accepted = sink.accepted ++
        ((openings openInput stdin first).flatMap (·.contribution keep) ++
          output (source.lines.filter keep)) ∧
      (sink.Immediate → sink'.Immediate) ∧
      ∀ (openInput' : Source → Input → Except SystemError Source) (later : List Input),
        (∀ i ∈ first ++ [input], ∀ s, openInput' s i = openInput s i) →
        inputs keep openInput' stdin sink (first ++ input :: later) =
          ⟨sink', (openings openInput stdin first).map (·.said keep), .error e⟩ := by
  rw [flatMap_contribution] at hRoom ⊢
  rw [List.length_append] at hRoom
  obtain ⟨sink₁, hWrite₁, hRoom₁, hAccepted₁⟩ := writeEach_pieces_of_room hRoom
  obtain ⟨sink₂, hWrite₂, -, hAccepted₂⟩ := writeEach_pieces_of_room (n := 0) hRoom₁
  refine ⟨sink₂, by rw [hAccepted₂, hAccepted₁, List.append_assoc], fun hImmediate => ?_, ?_⟩
  · have hImmediate₁ := hImmediate.writeEach
      (pieces ((openings openInput stdin first).flatMap (·.kept keep)))
    rw [hWrite₁] at hImmediate₁
    have hImmediate₂ := hImmediate₁.writeEach (pieces (source.lines.filter keep))
    rwa [hWrite₂] at hImmediate₂
  intro openInput' later hAgree
  obtain ⟨hFirst, hInput⟩ := List.forall_mem_append.mp hAgree
  obtain ⟨hOpenings, hStdin⟩ := openings_congr hFirst stdin
  have hOpen' : openInput' (stdinAfter openInput' stdin first) input = .ok source := by
    rw [hStdin, hInput input List.mem_cons_self, hOpen]
  rw [← hOpenings] at hComplete hWrite₁ ⊢
  rw [inputs_append hComplete hWrite₁, inputs_of_fault hOpen' hFault hWrite₂, foldr_after,
    List.append_nil]

/-- An input that cannot be opened makes no difference to what is written and how the run ends. -/
theorem inputs_without {input : Input} (h : ∀ s, ∃ e, openInput s input = .error e)
    (first later : List Input) :
    (inputs keep openInput stdin sink (first ++ input :: later)).sink =
        (inputs keep openInput stdin sink (first ++ later)).sink ∧
      (inputs keep openInput stdin sink (first ++ input :: later)).result =
        (inputs keep openInput stdin sink (first ++ later)).result := by
  induction first generalizing stdin sink with
  | nil =>
    obtain ⟨e, hOpen⟩ := h stdin
    simp only [List.nil_append, inputs, hOpen, Passage.after, and_self]
  | cons i first ih =>
    simp only [List.cons_append, inputs]
    split
    · exact ih
    · split
      · exact ih
      · exact ⟨rfl, rfl⟩

end

/-- The run of a matcher over inputs, for a sink with or without a buffer.

Where there is room and no reading fails, it succeeds, and what it has written is what it would have
written for each input alone. The lines of the inputs are not joined, and each input leaves one
diagnostic: a report if it cannot be opened, else the record of its count.

Where the reading of an input fails, the run fails with that error. It has written what the inputs
before would have written alone and the lines that matched before the failure, the last of it to the
buffer if there is one. It would have gone the same with any other inputs behind.

An input that cannot be opened might as well be left out, however the run ends. -/
theorem inputs_separately {P : Type} (engine : Engine P) (m : Matcher P) (lower : Bool)
    (openInput : Source → Input → Except SystemError Source) (stdin : Source) (capacity : Nat)
    (room : Option Nat) (writeFault : SystemError) :
    let keep := keeps engine m lower
    let run (openInput : Source → Input → Except SystemError Source) (ins : List Input) :=
      inputs keep openInput stdin (.buffered capacity ⟨.empty, room, writeFault⟩) ins
    (∀ ins,
      let os := openings openInput stdin ins
      let full := os.flatMap (·.contribution keep)
      (∀ o ∈ os, o.Complete) → Device.Fits room full.length →
      (run openInput ins).result = .ok () ∧
      (run openInput ins).sink.device.written = full ∧
      segments full = os.flatMap (·.kept keep) ∧
      (run openInput ins).diagnostics = os.map (·.said keep)) ∧
    (∀ first input later source e,
      let os := openings openInput stdin first
      let full := os.flatMap (·.contribution keep) ++ output (matching engine m lower
        ((endedSegments source.bytes).map (dropLastIf carriageReturn)))
      (∀ o ∈ os, o.Complete) → openInput (stdinAfter openInput stdin first) input = .ok source →
      source.fault = some e → Device.Fits room full.length →
      (run openInput (first ++ input :: later)).result = .error e ∧
      (run openInput (first ++ input :: later)).sink.accepted = full ∧
      (capacity = 0 → (run openInput (first ++ input :: later)).sink.device.written = full) ∧
      (run openInput (first ++ input :: later)).diagnostics = os.map (·.said keep) ∧
      ∀ openInput' later', (∀ i ∈ first ++ [input], ∀ s, openInput' s i = openInput s i) →
        run openInput' (first ++ input :: later') = run openInput (first ++ input :: later)) ∧
    (∀ first input later, (∀ s, ∃ e, openInput s input = .error e) →
      (run openInput (first ++ input :: later)).sink = (run openInput (first ++ later)).sink ∧
      (run openInput (first ++ input :: later)).result =
        (run openInput (first ++ later)).result) := by
  intro keep run
  have hRoom {n : Nat} (h : Device.Fits room n) :
      (Sink.buffered capacity ⟨.empty, room, writeFault⟩).HasRoom n := by
    rw [← Nat.zero_add n] at h
    exact h
  refine ⟨?_, ?_, ?_⟩
  · intro ins os full hComplete hFits
    obtain ⟨sink', hRun, hWritten⟩ := inputs_of_complete hComplete (hRoom hFits)
    have hSegments : segments full = os.flatMap (·.kept keep) := by
      dsimp only [full]
      rw [flatMap_contribution]
      refine segments_output fun line hLine => ?_
      obtain ⟨o, -, hKept⟩ := List.mem_flatMap.mp hLine
      exact Opening.newline_not_mem_of_mem_kept hKept
    dsimp only [run]
    rw [hRun]
    exact ⟨rfl, hWritten, hSegments, rfl⟩
  · intro first input later source e os full hComplete hOpen hFault hFits
    have hLines : source.lines.filter keep = matching engine m lower
        ((endedSegments source.bytes).map (dropLastIf carriageReturn)) := by
      rw [Source.lines, hFault]
      rfl
    dsimp only [full] at hFits ⊢
    rw [← hLines] at hFits ⊢
    obtain ⟨sink', hAccepted, hImmediate, hRun⟩ :=
      inputs_up_to_fault hComplete hOpen hFault (hRoom hFits)
    have hSame := hRun openInput later fun _ _ _ => rfl
    have hWritten (hCapacity : capacity = 0) : sink'.device.written = _ :=
      (hImmediate ⟨hCapacity, rfl⟩).accepted_eq.symm.trans hAccepted
    dsimp only [run]
    rw [hSame]
    exact ⟨rfl, hAccepted, hWritten, rfl, hRun⟩
  · intro first input later h
    exact inputs_without h first later

/-- A file that lacks its last line feed, one that is not there, and a standard input that fails
within its second line, before another file. -/
theorem inputs_separately_unplugged :
    let unplugged : SystemError := ⟨.other, "unplugged"⟩
    let openInput : Source → Input → Except SystemError Source := fun stdin input =>
      if input = .standard then .ok stdin
      else if input = .file "gone" then .error .notFound
      else .ok (.ofBytes [98, newline, 97])
    let run (ins : List Input) := inputs (keeps Engine.occurrences (.substring "a") false) openInput
      ⟨[[97, 98, newline], [97]], some unplugged⟩ (.buffered 3 ⟨.empty, some 5, .storageFull⟩) ins
    ((run [.file "x", .file "gone", .file "x"]).result = .ok () ∧
      (run [.file "x", .file "gone", .file "x"]).sink.device.written =
        [97, newline, 97, newline]) ∧
    ((run [.file "x", .file "gone", .standard, .file "x"]).result = .error unplugged ∧
      (run [.file "x", .file "gone", .standard, .file "x"]).sink.accepted =
        [97, newline, 97, 98, newline]) ∧
    (run [.file "x", .file "gone", .file "x"]).sink = (run [.file "x", .file "x"]).sink := by
  intro unplugged openInput run
  let keep := keeps Engine.occurrences (.substring "a") false
  let stdin : Source := ⟨[[97, 98, newline], [97]], some unplugged⟩
  have hGone : ∀ s, ∃ e, openInput s (.file "gone") = .error e := fun _ => ⟨.notFound, rfl⟩
  have hTwo : (openings openInput stdin [.file "x", .file "gone", .file "x"]).flatMap
      (·.contribution keep) = [97, newline, 97, newline] := by
    rw [flatMap_contribution]
    decide +kernel
  have hOne : (openings openInput stdin [.file "x", .file "gone"]).flatMap (·.contribution keep) ++
      output (matching Engine.occurrences (.substring "a") false
        ((endedSegments stdin.bytes).map (dropLastIf carriageReturn))) =
      [97, newline, 97, 98, newline] := by
    rw [flatMap_contribution]
    decide +kernel
  have hFiles : ∀ o ∈ openings openInput stdin [.file "x", .file "gone", .file "x"],
      o.Complete := by
    simp [openings, openInput, Opening.Complete, Source.ofBytes]
  have hBefore : ∀ o ∈ openings openInput stdin [.file "x", .file "gone"], o.Complete := by
    simp [openings, openInput, Opening.Complete, Source.ofBytes]
  have hStdin : openInput (stdinAfter openInput stdin [.file "x", .file "gone"]) .standard =
      .ok stdin := by
    simp [stdinAfter, openInput, Opening.stdinAfter]
  have hRoom {n : Nat} (h : n ≤ 5) : Device.Fits (some 5) n := by
    rintro _ ⟨⟩
    exact h
  obtain ⟨hAll, hUpToFault, hWithout⟩ := inputs_separately Engine.occurrences (.substring "a") false
    openInput stdin 3 (some 5) .storageFull
  obtain ⟨hOk, hWritten, -, -⟩ :=
    hAll [.file "x", .file "gone", .file "x"] hFiles (hRoom (by rw [hTwo]; decide))
  obtain ⟨hError, hAccepted, -, -, -⟩ := hUpToFault [.file "x", .file "gone"] .standard [.file "x"]
    stdin unplugged hBefore hStdin rfl (hRoom (by rw [hOne]; decide))
  exact ⟨⟨hOk, hWritten.trans hTwo⟩, ⟨hError, hAccepted.trans hOne⟩,
    (hWithout [.file "x"] (.file "gone") [.file "x"] hGone).1⟩

end LineSieve.Filter
