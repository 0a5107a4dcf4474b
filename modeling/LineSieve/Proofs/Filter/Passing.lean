import LineSieve.Matcher.Engines
import LineSieve.Proofs.Filter.Reading
import LineSieve.Proofs.Filter.Writing

/-!
# What a filter passes on

A filter reads and writes in turns. `linesFrom_eq` takes these apart: the filter leaves its sink as
writing all the lines it keeps does, and if that succeeds it ends as its source does. What it passes
on follows from this and from how pieces are written.

* `output`: what is written for lines.
* `lines_of_unlimited`, `lines_of_fits`, `lines_of_lt`: the lines that any condition keeps, written
  with a buffer, without one, and to a device that is too small for them.
* `matching`: the lines whose text a matcher holds of.
* `lines_pass_matching`: without failures, the matching lines are passed on.
* `lines_within_limits`: with a source that fails or a device that fills up, their output is passed
  on as far as it goes, and the error that comes first ends the filter.
-/

namespace LineSieve.Filter

open Source

/-! ## Reading and writing apart -/

/-- The pieces in which lines are written. -/
def pieces (lines : List Bytes) : List Bytes := lines.flatMap fun line => [line, [newline]]

/-- What is written for lines. -/
def output (lines : List Bytes) : Bytes := lines.flatMap (· ++ [newline])

theorem pieces_append (lines more : List Bytes) :
    pieces (lines ++ more) = pieces lines ++ pieces more :=
  List.flatMap_append

theorem flatten_pieces (lines : List Bytes) : (pieces lines).flatten = output lines := by
  induction lines with
  | nil => rfl
  | cons line lines ih => simp_all [pieces, output]

/-- The segments of what is written for lines are these lines. -/
theorem segments_output {lines : List Bytes} (h : ∀ line ∈ lines, newline ∉ line) :
    segments (output lines) = lines := by
  induction lines with
  | nil => rfl
  | cons line lines ih =>
    obtain ⟨hLine, hLines⟩ := List.forall_mem_cons.mp h
    have hCons : output (line :: lines) = line ++ newline :: output lines := by simp [output]
    rw [hCons, segments_append hLine, ih hLines]

theorem writeEach_pieces_of_ok {sink sink' : Sink} {line : Bytes}
    (h : writeLine sink line = (sink', .ok ())) (lines : List Bytes) :
    sink.writeEach (pieces (line :: lines)) = sink'.writeEach (pieces lines) := by
  unfold writeLine at h
  split at h
  · rename_i hWrite
    exact (Sink.writeEach_cons_of_ok hWrite _).trans (Sink.writeEach_cons_of_ok h _)
  · cases h

theorem writeEach_pieces_of_error {sink sink' : Sink} {line : Bytes} {e : SystemError}
    (h : writeLine sink line = (sink', .error e)) (lines : List Bytes) :
    sink.writeEach (pieces (line :: lines)) = (sink', .error e) := by
  unfold writeLine at h
  split at h
  · rename_i hWrite
    exact (Sink.writeEach_cons_of_ok hWrite _).trans (Sink.writeEach_cons_of_error h _)
  · rename_i hWrite
    cases h
    exact Sink.writeEach_cons_of_error hWrite _

theorem writeEach_pieces_of_room {sink : Sink} {lines : List Bytes} {n : Nat}
    (h : sink.HasRoom ((output lines).length + n)) :
    ∃ sink', sink.writeEach (pieces lines) = (sink', .ok ()) ∧ sink'.HasRoom n ∧
      sink'.accepted = sink.accepted ++ output lines := by
  rw [← flatten_pieces] at h ⊢
  exact Sink.writeEach_of_room h

/-- A filter ends with the error of a write, or else as the source does. -/
def verdict (fault : Option SystemError) (count : Nat) :
    Except SystemError Unit → Except SystemError Nat
  | .error e => .error e
  | .ok () =>
    match fault with
    | none => .ok count
    | some e => .error e

/-- Writing in between reading comes to the same as writing all kept lines at once. -/
theorem linesFrom_eq (keep : Bytes → Bool) (source : Source) (sink : Sink) (count : Nat) :
    (linesFrom keep source sink count).sink =
        (sink.writeEach (pieces (source.lines.filter keep))).1 ∧
      (linesFrom keep source sink count).result =
        verdict source.fault (count + (source.lines.filter keep).length)
          (sink.writeEach (pieces (source.lines.filter keep))).2 := by
  fun_induction linesFrom keep source sink count with
  | case1 source sink count e hRead =>
    cases reads_of_readLine hRead with
    | failed hFault hLines =>
      rw [hFault, hLines]
      exact ⟨rfl, rfl⟩
  | case2 source sink count rest hRead =>
    cases reads_of_readLine hRead with
    | ended hFault hLines =>
      rw [hFault, hLines]
      exact ⟨rfl, rfl⟩
  | case3 source sink count b bs rest hRead _ hKeep sink' hWrite ih =>
    cases reads_of_readLine hRead with
    | line hFault hLines =>
      -- the line leaves those still to be written and enters the count
      rw [← hFault, hLines, List.filter_cons_of_pos hKeep, writeEach_pieces_of_ok hWrite,
        List.length_cons, ← Nat.add_assoc, Nat.add_right_comm]
      exact ih
  | case4 source sink count b bs rest hRead _ hKeep sink' e hWrite =>
    cases reads_of_readLine hRead with
    | line hFault hLines =>
      rw [hLines, List.filter_cons_of_pos hKeep, writeEach_pieces_of_error hWrite]
      exact ⟨rfl, rfl⟩
  | case5 source sink count b bs rest hRead _ hKeep ih =>
    cases reads_of_readLine hRead with
    | line hFault hLines =>
      rw [← hFault, hLines, List.filter_cons_of_neg hKeep]
      exact ih

/-- A filter that succeeds has read its source to the end. -/
theorem rest_linesFrom {keep : Bytes → Bool} {source : Source} {sink : Sink} {count n : Nat}
    (h : (linesFrom keep source sink count).result = .ok n) :
    (linesFrom keep source sink count).rest = .empty := by
  fun_induction linesFrom keep source sink count with
  | case1 => cases h
  | case2 _ _ _ _ hRead => exact eq_empty_of_readLine hRead
  | case3 _ _ _ _ _ _ _ _ _ _ _ ih => exact ih h
  | case4 => cases h
  | case5 _ _ _ _ _ _ _ _ _ ih => exact ih h

/-! ## Any lines -/

theorem lines_of_unlimited (keep : Bytes → Bool) {source : Source} {sink : Sink}
    (hFault : source.fault = none) (hRoom : sink.device.room = none) :
    (lines keep source sink).result = .ok (source.lines.filter keep).length ∧
      (lines keep source sink).sink.accepted =
        sink.accepted ++ output (source.lines.filter keep) := by
  obtain ⟨hSink, hResult⟩ := linesFrom_eq keep source sink 0
  obtain ⟨sink', hWrite, -, hAccepted⟩ :=
    writeEach_pieces_of_room (Sink.hasRoom_of_unlimited hRoom
      ((output (source.lines.filter keep)).length + 0))
  rw [hWrite] at hSink hResult
  rw [lines, hSink, hResult, hFault, hAccepted, Nat.zero_add]
  exact ⟨rfl, rfl⟩

/-- Where the output fits into the device, the filter ends as its source does. -/
theorem lines_of_fits (keep : Bytes → Bool) (source : Source) {room : Option Nat}
    (fault : SystemError) (hFits : Device.Fits room (output (source.lines.filter keep)).length) :
    (lines keep source (.unbuffered ⟨.empty, room, fault⟩)).result =
        verdict source.fault (source.lines.filter keep).length (.ok ()) ∧
      (lines keep source (.unbuffered ⟨.empty, room, fault⟩)).sink.device.written =
        output (source.lines.filter keep) := by
  rw [← flatten_pieces] at hFits ⊢
  obtain ⟨sink', hWrite, hWritten⟩ := (Sink.exposed_unbuffered room fault).writeEach_of_fits hFits
  obtain ⟨hSink, hResult⟩ := linesFrom_eq keep source (.unbuffered ⟨.empty, room, fault⟩) 0
  rw [hWrite] at hSink hResult
  rw [lines, hSink, hResult, hWritten, Nat.zero_add]
  exact ⟨rfl, rfl⟩

theorem lines_unbuffered (keep : Bytes → Bool) (source : Source) :
    (lines keep source (.unbuffered .unlimited)).result =
        verdict source.fault (source.lines.filter keep).length (.ok ()) ∧
      (lines keep source (.unbuffered .unlimited)).sink.device.written =
        output (source.lines.filter keep) := by
  have hFits : Device.Fits none (output (source.lines.filter keep)).length := nofun
  exact lines_of_fits keep source .brokenPipe hFits

/-- Where the output does not fit, the device is filled before the source can end or fail. -/
theorem lines_of_lt (keep : Bytes → Bool) (source : Source) {room : Nat} (fault : SystemError)
    (hLt : room < (output (source.lines.filter keep)).length) :
    (lines keep source (.unbuffered ⟨.empty, some room, fault⟩)).result = .error fault ∧
      (lines keep source (.unbuffered ⟨.empty, some room, fault⟩)).sink.device.written =
        (output (source.lines.filter keep)).take room := by
  rw [← flatten_pieces] at hLt ⊢
  obtain ⟨sink', hWrite, hWritten⟩ :=
    (Sink.exposed_unbuffered (some room) fault).writeEach_of_lt hLt
  obtain ⟨hSink, hResult⟩ := linesFrom_eq keep source (.unbuffered ⟨.empty, some room, fault⟩) 0
  rw [hWrite] at hSink hResult
  rw [lines, hSink, hResult, hWritten]
  exact ⟨rfl, rfl⟩

/-! ## Lines that match -/

/-- The lines whose text, lower-cased if that is asked for, the matcher holds of. -/
def matching {P : Type} (engine : Engine P) (m : Matcher P) (lower : Bool) (lines : List Bytes) :
    List Bytes :=
  lines.filter fun line =>
    m.isMatch engine
      (if lower then Unicode.lowerCase (Utf8.decodeLossy line) else Utf8.decodeLossy line)

/-- However the bytes come in chunks, the matching lines among them are passed on and counted, and a
buffer before the device loses none of them. -/
theorem lines_pass_matching {P : Type} (engine : Engine P) (m : Matcher P) (lower : Bool)
    (chunks : List Bytes) :
    let kept := matching engine m lower
      ((segments chunks.flatten).map (dropLastIf carriageReturn))
    let outcome (sink : Sink) := lines (keeps engine m lower) ⟨chunks, none⟩ sink
    ((outcome (.unbuffered .unlimited)).result = .ok kept.length ∧
      (outcome (.unbuffered .unlimited)).sink.device.written = output kept) ∧
    (∀ capacity, (outcome (.buffered capacity .unlimited)).result = .ok kept.length ∧
      (outcome (.buffered capacity .unlimited)).sink.accepted = output kept) := by
  intro kept outcome
  constructor
  · exact lines_of_fits (keeps engine m lower) ⟨chunks, none⟩ .brokenPipe nofun
  · intro capacity
    exact lines_of_unlimited (keeps engine m lower) rfl rfl

/-- A filter whose source fails after `readLimit` bytes, and whose device takes `writeLimit` bytes.
A line that the end of the source cuts off counts, and one that a failure cuts off does not. -/
theorem lines_within_limits {P : Type} (engine : Engine P) (m : Matcher P) (lower : Bool)
    (data : Bytes) (readLimit writeLimit : Option Nat) (readFault writeFault : SystemError)
    (chunks : List Bytes)
    (hChunks : chunks.flatten = match readLimit with
      | none => data
      | some r => data.take r) :
    let parts := match readLimit with
      | none => segments data
      | some r => endedSegments (data.take r)
    let kept := matching engine m lower (parts.map (dropLastIf carriageReturn))
    let full := output kept
    let outcome := lines (keeps engine m lower) ⟨chunks, readLimit.map fun _ => readFault⟩
      (.unbuffered ⟨.empty, writeLimit, writeFault⟩)
    (∀ w, writeLimit = some w → w < full.length →
      outcome.result = .error writeFault ∧ outcome.sink.device.written = full.take w) ∧
    ((∀ w, writeLimit = some w → full.length ≤ w) →
      outcome.sink.device.written = full ∧
      outcome.result = match readLimit with
        | none => .ok kept.length
        | some _ => .error readFault) := by
  intro parts kept full outcome
  have hKept : (Source.lines ⟨chunks, readLimit.map fun _ => readFault⟩).filter
      (keeps engine m lower) = kept := by
    unfold Source.lines Source.bytes
    rw [hChunks]
    cases readLimit <;> rfl
  constructor
  · rintro w rfl hLt
    dsimp only [full] at hLt ⊢
    rw [← hKept] at hLt ⊢
    exact lines_of_lt (keeps engine m lower) _ writeFault hLt
  · intro hFits
    dsimp only [full] at hFits ⊢
    rw [← hKept] at hFits ⊢
    obtain ⟨hResult, hWritten⟩ := lines_of_fits (keeps engine m lower) _ writeFault hFits
    refine ⟨hWritten, hResult.trans ?_⟩
    cases readLimit <;> rfl

/-- The last line would match but is cut off. The device has room for the other two, or for one byte
less, and then its error comes before that of the source. -/
theorem lines_within_limits_cut_off :
    let unplugged : SystemError := ⟨.other, "unplugged"⟩
    let outcome (room : Nat) := lines (keeps Engine.occurrences (.substring "b") false)
      ⟨[[97, 98, carriageReturn], [newline, 98], [newline, 98]], some unplugged⟩
      (.unbuffered (.limited room .storageFull))
    (outcome 4).result = .error .storageFull ∧
      (outcome 4).sink.device.written = [97, 98, newline, 98] ∧
      (outcome 5).result = .error unplugged ∧
      (outcome 5).sink.device.written = [97, 98, newline, 98, newline] := by
  intro unplugged outcome
  have hKept : matching Engine.occurrences (.substring "b") false
      ((endedSegments [97, 98, carriageReturn, newline, 98, newline, 98]).map
        (dropLastIf carriageReturn)) = [[97, 98], [98]] := by decide +kernel
  have h (room : Nat) := lines_within_limits Engine.occurrences (.substring "b") false
    [97, 98, carriageReturn, newline, 98, newline, 98, 98] (some 7) (some room) unplugged
    .storageFull [[97, 98, carriageReturn], [newline, 98], [newline, 98]] rfl
  simp only [List.take_succ_cons, List.take_zero, hKept] at h
  obtain ⟨hResult, hWritten⟩ := (h 4).1 4 rfl (by decide)
  obtain ⟨hWritten', hResult'⟩ := (h 5).2 (by decide)
  exact ⟨hResult, hWritten, hResult', hWritten'⟩

end LineSieve.Filter
