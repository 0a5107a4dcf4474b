import LineSieve.Proofs.Filter.Passing
import LineSieve.Proofs.Matcher.Meaning

/-!
# Filters one after another

What a filter passes on can be filtered again. The second filter finds the lines that the first one
has written, unless one of them ends with a carriage return: behind the line feed that was written
after it, this one would be taken for a part of the end of the line.

* `Bare`: a line that is read back as it was written.
* `bare_of_mem_lines`: the lines of a source are bare, if none ends with two carriage returns.
* `lines_of_bytes_eq_output`: bare lines that are written and read again are the same lines.
* `filters_chain`: one filter behind another passes on what a single filter with both conditions
  does, in either order.
-/

namespace LineSieve.Filter

open Source

/-! ## Lines that are read back as they were written -/

/-- Nothing of the line can be taken for the end of a line. -/
structure Bare (line : Bytes) : Prop where
  newline_not_mem : newline ∉ line
  getLast?_ne : line.getLast? ≠ some carriageReturn

theorem getLast?_dropLastIf_ne {b : UInt8} {line : Bytes} (h : ¬ [b, b] <:+ line) :
    (dropLastIf b line).getLast? ≠ some b := by
  by_cases hLast : line.getLast? = some b
  · obtain ⟨body, rfl⟩ := List.getLast?_eq_some_iff.mp hLast
    rw [dropLastIf_append]
    intro hBody
    obtain ⟨start, rfl⟩ := List.getLast?_eq_some_iff.mp hBody
    have hTwo : [b, b] <:+ start ++ [b] ++ [b] := ⟨start, by simp⟩
    exact h hTwo
  · rw [dropLastIf, if_neg hLast]
    exact hLast

theorem bare_of_mem_lines {s : Source} (hFault : s.fault = none)
    (hEnds : ∀ part ∈ segments s.bytes, ¬ [carriageReturn, carriageReturn] <:+ part)
    {line : Bytes} (h : line ∈ s.lines) : Bare line := by
  have hNewline : newline ∉ line := newline_not_mem_of_mem_lines h
  rw [Source.lines, hFault] at h
  obtain ⟨part, hPart, rfl⟩ := List.mem_map.mp h
  exact ⟨hNewline, getLast?_dropLastIf_ne (hEnds part hPart)⟩

theorem lines_of_bytes_eq_output {s : Source} {written : List Bytes} (hFault : s.fault = none)
    (hBytes : s.bytes = output written) (hBare : ∀ line ∈ written, Bare line) :
    s.lines = written := by
  have hSegments : segments (output written) = written :=
    segments_output fun line hLine => (hBare line hLine).newline_not_mem
  have hTrim : written.map (dropLastIf carriageReturn) = written.map id :=
    List.map_congr_left fun line hLine => if_neg (hBare line hLine).getLast?_ne
  rw [Source.lines, hFault, hBytes]
  dsimp only
  rw [hSegments, hTrim, List.map_id]

/-! ## Two filters -/

theorem keeps_and {P : Type} (engine : Engine P) (m n : Matcher P) (lower : Bool) (line : Bytes) :
    keeps engine (m.and n) lower line =
      (keeps engine m lower line && keeps engine n lower line) := by
  simp [keeps, Matcher.and, Matcher.isMatch_and]

/-- Both filters have passed on the same bytes and ended in the same way. -/
def Outcome.Agrees (a b : Outcome) : Prop :=
  a.result = b.result ∧ a.sink.device.written = b.sink.device.written

/-- What a filter does depends on the lines that it keeps and on nothing else. -/
theorem agrees_of_filter_eq {keep keep' : Bytes → Bool} {s s' : Source} (hFault : s.fault = none)
    (hFault' : s'.fault = none) (h : s.lines.filter keep = s'.lines.filter keep') :
    (lines keep s (.unbuffered .unlimited)).Agrees (lines keep' s' (.unbuffered .unlimited)) := by
  obtain ⟨hResult, hWritten⟩ := lines_unbuffered keep s
  obtain ⟨hResult', hWritten'⟩ := lines_unbuffered keep' s'
  rw [h, hFault, ← hFault'] at hResult
  rw [h] at hWritten
  exact ⟨hResult.trans hResult'.symm, hWritten.trans hWritten'.symm⟩

/-- The source of what a filter has passed on gives the lines that it kept. -/
theorem lines_of_written {keep : Bytes → Bool} {s s' : Source} (hFault : s.fault = none)
    (hFault' : s'.fault = none)
    (hEnds : ∀ part ∈ segments s.bytes, ¬ [carriageReturn, carriageReturn] <:+ part)
    (hBytes : s'.bytes = (lines keep s (.unbuffered .unlimited)).sink.device.written) :
    s'.lines = s.lines.filter keep := by
  have hWritten : s'.bytes = output (s.lines.filter keep) :=
    hBytes.trans (lines_unbuffered keep s).2
  exact lines_of_bytes_eq_output hFault' hWritten fun line hLine =>
    bare_of_mem_lines hFault hEnds (List.mem_of_mem_filter hLine)

/-- Where no line ends with two carriage returns, a second filter over what the first one has passed
on does what one filter with both conditions does over the first source, and the first filter once
more changes nothing. It makes no difference in which chunks the bytes come. -/
theorem filters_chain {P : Type} (engine : Engine P) (m₁ m₂ : Matcher P) (lower : Bool)
    (chunks : List Bytes)
    (hEnds : ∀ part ∈ segments chunks.flatten, ¬ [carriageReturn, carriageReturn] <:+ part) :
    let run (m : Matcher P) (chunks : List Bytes) :=
      lines (keeps engine m lower) ⟨chunks, none⟩ (.unbuffered .unlimited)
    (∀ m chunks, ∃ n, (run m chunks).result = .ok n) ∧
    ∀ passed : List Bytes, passed.flatten = (run m₁ chunks).sink.device.written →
      (run m₂ passed).Agrees (run (m₁.and m₂) chunks) ∧
      (run m₂ passed).Agrees (run (m₂.and m₁) chunks) ∧
      (run m₁ passed).Agrees (run m₁ chunks) := by
  intro run
  constructor
  · intro m chunks
    exact ⟨_, (lines_unbuffered (keeps engine m lower) ⟨chunks, none⟩).1⟩
  intro passed hPassed
  have hLines : Source.lines ⟨passed, none⟩ =
      (Source.lines ⟨chunks, none⟩).filter (keeps engine m₁ lower) :=
    lines_of_written rfl rfl hEnds hPassed
  refine ⟨agrees_of_filter_eq rfl rfl ?_, agrees_of_filter_eq rfl rfl ?_,
    agrees_of_filter_eq rfl rfl ?_⟩
  · rw [hLines, List.filter_filter]
    exact List.filter_congr fun line _ => by rw [keeps_and, Bool.and_comm]
  · rw [hLines, List.filter_filter]
    exact List.filter_congr fun line _ => (keeps_and engine m₂ m₁ lower line).symm
  · rw [hLines, List.filter_filter]
    exact List.filter_congr fun line _ => Bool.and_self _

/-- Lines with a malformed byte, with a carriage return of their own, and without a line feed. The
second filter takes one of them out of what the first has passed on. -/
theorem filters_chain_malformed :
    let chunks : List Bytes := [[97, carriageReturn], [newline, 255, 97, newline, 98],
      [carriageReturn, 97]]
    let run (m : Matcher String) (chunks : List Bytes) :=
      lines (keeps Engine.occurrences m false) ⟨chunks, none⟩ (.unbuffered .unlimited)
    let passed : List Bytes := [[97, newline, 255], [97, newline, 98, carriageReturn, 97, newline]]
    (∀ part ∈ segments chunks.flatten, ¬ [carriageReturn, carriageReturn] <:+ part) ∧
      passed.flatten = (run (.substring "a") chunks).sink.device.written ∧
      (run (.not (.substring "b")) passed).Agrees
        (run ((Matcher.substring "a").and (.not (.substring "b"))) chunks) ∧
      (run (.not (.substring "b")) passed).sink.device.written =
        [97, newline, 255, 97, newline] := by
  intro chunks run passed
  have hEnds : ∀ part ∈ segments chunks.flatten, ¬ [carriageReturn, carriageReturn] <:+ part := by
    decide
  have hPassed : passed.flatten = (run (.substring "a") chunks).sink.device.written := by
    rw [(lines_unbuffered _ _).2]
    decide +kernel
  have hWritten : (run (.not (.substring "b")) passed).sink.device.written =
      [97, newline, 255, 97, newline] := by
    rw [(lines_unbuffered _ _).2]
    decide +kernel
  obtain ⟨-, hChain⟩ := filters_chain Engine.occurrences (.substring "a")
    (.not (.substring "b")) false chunks hEnds
  exact ⟨hEnds, hPassed, (hChain passed hPassed).1, hWritten⟩

end LineSieve.Filter
