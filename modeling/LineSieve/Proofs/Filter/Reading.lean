import LineSieve.Filter.Lines

/-!
# The lines that a source gives

What the lines of bytes are does not depend on how a source hands the bytes out in chunks:

* `segments`: what stands between line feeds. After the last of them there is a segment only if it
  is not empty.
* `Source.lines`: the lines of a source, which are its segments without the carriage return at
  their ends. If the source fails, what comes after the last line feed is no line.
* `cutLine?_append`: the first line feed is found across the border of two chunks.
* `Source.Reads`, `reads_of_readLine`: what reading one line comes to, in terms of these lines.
-/

namespace LineSieve

open Source

namespace Filter

/-! ## Segments -/

/-- The bytes between line feeds. What follows the last one counts if it is not empty. -/
def segments (bytes : Bytes) : List Bytes :=
  let parts := bytes.splitOn newline
  if parts.getLast? = some [] then parts.dropLast else parts

/-- The segments that a line feed ends. -/
def endedSegments (bytes : Bytes) : List Bytes := (bytes.splitOn newline).dropLast

section

variable {line bytes : Bytes}

theorem segments_of_not_mem (h : newline ∉ bytes) :
    segments bytes = if bytes = [] then [] else [bytes] := by
  simp [segments, List.splitOn_eq_singleton h]

theorem segments_append (h : newline ∉ line) (after : Bytes) :
    segments (line ++ newline :: after) = line :: segments after := by
  have hne := List.splitOn_ne_nil newline after
  simp only [segments, List.splitOn_append_cons_self_of_not_mem h]
  rw [List.getLast?_cons_of_ne_nil hne, List.dropLast_cons_of_ne_nil hne]
  split <;> rfl

example : segments [97, newline, newline, 98] = [[97], [], [98]] ∧
    segments [97, newline] = [[97]] := by decide

theorem endedSegments_of_not_mem (h : newline ∉ bytes) : endedSegments bytes = [] := by
  rw [endedSegments, List.splitOn_eq_singleton h]
  rfl

theorem endedSegments_append (h : newline ∉ line) (after : Bytes) :
    endedSegments (line ++ newline :: after) = line :: endedSegments after := by
  rw [endedSegments, List.splitOn_append_cons_self_of_not_mem h,
    List.dropLast_cons_of_ne_nil (List.splitOn_ne_nil newline after), endedSegments]

end

theorem newline_not_mem_of_mem_splitOn {part bytes : Bytes} (h : part ∈ bytes.splitOn newline) :
    newline ∉ part := by
  induction bytes generalizing part with
  | nil =>
    rw [List.splitOn_nil, List.mem_singleton] at h
    rw [h]
    exact List.not_mem_nil
  | cons b bytes ih =>
    rw [List.splitOn_cons_eq_if_modifyHead] at h
    split at h
    · rcases List.mem_cons.mp h with rfl | hPart
      · exact List.not_mem_nil
      · exact ih hPart
    · rename_i hb
      -- the first part takes `b` up, and the others are those of the bytes behind it
      obtain ⟨head, parts, hParts⟩ :=
        List.exists_cons_of_ne_nil (List.splitOn_ne_nil newline bytes)
      rw [hParts] at h ih
      rcases List.mem_cons.mp h with rfl | hPart
      · have hHead : newline ∉ head := ih List.mem_cons_self
        have hNe : newline ≠ b := fun hEq => hb (beq_iff_eq.mpr hEq.symm)
        simp [hHead, hNe]
      · exact ih (List.mem_cons_of_mem _ hPart)

theorem segments_subset (bytes : Bytes) : segments bytes ⊆ bytes.splitOn newline := by
  dsimp only [segments]
  split
  · exact List.dropLast_subset _
  · exact List.Subset.refl _

theorem endedSegments_subset (bytes : Bytes) : endedSegments bytes ⊆ bytes.splitOn newline :=
  List.dropLast_subset _

/-! ## Trimming -/

/-- What is left is the line without one `b` at its end, or a line that does not end with `b`. -/
theorem dropLastIf_eq_iff {b : UInt8} {line kept : Bytes} :
    dropLastIf b line = kept ↔ line = kept ++ [b] ∨ line = kept ∧ ¬ [b] <:+ line := by
  by_cases hLast : line.getLast? = some b
  · obtain ⟨body, rfl⟩ := List.getLast?_eq_some_iff.mp hLast
    have hEnds : [b] <:+ body ++ [b] := List.suffix_append body [b]
    rw [dropLastIf, if_pos hLast, List.dropLast_concat]
    simp only [hEnds, not_true_eq_false, and_false, or_false, List.append_left_inj]
  · have hEnds : ¬ [b] <:+ line := fun ⟨body, hBody⟩ =>
      hLast (List.getLast?_eq_some_iff.mpr ⟨body, hBody.symm⟩)
    rw [dropLastIf, if_neg hLast]
    refine ⟨fun h => Or.inr ⟨h, hEnds⟩, fun h => ?_⟩
    rcases h with rfl | ⟨rfl, -⟩
    · exact absurd (List.suffix_append kept [b]) hEnds
    · rfl

theorem dropLastIf_append (b : UInt8) (line : Bytes) : dropLastIf b (line ++ [b]) = line :=
  dropLastIf_eq_iff.mpr (Or.inl rfl)

theorem dropLastIf_subset (b : UInt8) (line : Bytes) : dropLastIf b line ⊆ line := by
  obtain ⟨kept, hKept⟩ : ∃ kept, dropLastIf b line = kept := ⟨_, rfl⟩
  rw [hKept]
  rcases dropLastIf_eq_iff.mp hKept with rfl | ⟨rfl, -⟩
  · exact List.subset_append_left kept [b]
  · exact List.Subset.refl line

theorem dropLastIf_of_not_mem {b : UInt8} {line : Bytes} (h : b ∉ line) :
    dropLastIf b line = line :=
  dropLastIf_eq_iff.mpr (Or.inr ⟨rfl, fun hEnds => h (hEnds.subset (List.mem_singleton_self b))⟩)

theorem trimLine_append_newline (line : Bytes) :
    trimLine (line ++ [newline]) = dropLastIf carriageReturn line := by
  rw [trimLine, dropLastIf_append]

theorem trimLine_of_not_mem {line : Bytes} (h : newline ∉ line) :
    trimLine line = dropLastIf carriageReturn line := by
  rw [trimLine, dropLastIf_of_not_mem h]

end Filter

namespace Source

open LineSieve.Filter

/-! ## One line of a source -/

/-- The bytes that a source hands out, in whatever chunks. -/
def bytes (s : Source) : Bytes := s.chunks.flatten

/-- The lines that a source hands out before it ends or fails. -/
def lines (s : Source) : List Bytes :=
  let parts := match s.fault with
    | none => segments s.bytes
    | some _ => endedSegments s.bytes
  parts.map (dropLastIf carriageReturn)

theorem newline_not_mem_of_mem_lines {s : Source} {line : Bytes} (h : line ∈ s.lines) :
    newline ∉ line := by
  obtain ⟨part, hPart, rfl⟩ := List.mem_map.mp h
  have hSplit : part ∈ s.bytes.splitOn newline := by
    split at hPart
    · exact segments_subset _ hPart
    · exact endedSegments_subset _ hPart
  exact fun hMem => newline_not_mem_of_mem_splitOn hSplit (dropLastIf_subset _ _ hMem)

theorem cutLine?_append (a b : Bytes) :
    cutLine? (a ++ b) = match cutLine? a with
      | some (line, rest) => some (line, rest ++ b)
      | none => (cutLine? b).map fun (line, rest) => (a ++ line, rest) := by
  induction a with
  | nil => simp [cutLine?]
  | cons c a ih =>
    rw [List.cons_append, cutLine?, cutLine?, ih]
    split
    · rfl
    · cases cutLine? a with
      | some p => rfl
      | none => cases cutLine? b <;> rfl

theorem cutLine?_eq_none_iff {bs : Bytes} : cutLine? bs = none ↔ newline ∉ bs := by
  induction bs with
  | nil => simp [cutLine?]
  | cons b bs ih =>
    rw [cutLine?]
    split
    · rename_i hb
      simp [hb]
    · rename_i hb
      simp [ih, Ne.symm hb]

theorem exists_of_cutLine? {bs line after : Bytes} (h : cutLine? bs = some (line, after)) :
    ∃ body, newline ∉ body ∧ line = body ++ [newline] ∧ bs = body ++ newline :: after := by
  induction bs generalizing line with
  | nil => cases h
  | cons b bs ih =>
    rw [cutLine?] at h
    split at h
    · rename_i hb
      cases h
      exact ⟨[], List.not_mem_nil, by rw [hb]; rfl, by rw [hb]; rfl⟩
    · rename_i hb
      obtain ⟨⟨line, after⟩, hCut, hEq⟩ := Option.map_eq_some_iff.mp h
      cases hEq
      obtain ⟨body, hBody, rfl, rfl⟩ := ih hCut
      exact ⟨b :: body, by simp [hBody, Ne.symm hb], rfl, rfl⟩

theorem readLineFrom_of_cutLine? {before line after : Bytes} {fault : Option SystemError}
    {chunks : List Bytes} (h : cutLine? chunks.flatten = some (line, after)) :
    ∃ rest : Source, rest.bytes = after ∧ rest.fault = fault ∧
      readLineFrom before fault chunks = .ok (before ++ line, rest) := by
  induction chunks generalizing before line with
  | nil => cases h
  | cons chunk chunks ih =>
    rw [List.flatten_cons, cutLine?_append] at h
    rw [readLineFrom]
    cases hChunk : cutLine? chunk with
    | some p =>
      rw [hChunk] at h
      cases h
      exact ⟨_, rfl, rfl, rfl⟩
    | none =>
      rw [hChunk] at h
      obtain ⟨⟨line, after⟩, hCut, hEq⟩ := Option.map_eq_some_iff.mp h
      cases hEq
      rw [← List.append_assoc]
      exact ih hCut

theorem readLineFrom_of_none {before : Bytes} {fault : Option SystemError}
    {chunks : List Bytes} (h : cutLine? chunks.flatten = none) :
    readLineFrom before fault chunks = match fault with
      | none => .ok (before ++ chunks.flatten, ⟨[], none⟩)
      | some e => .error e := by
  induction chunks generalizing before with
  | nil => cases fault <;> simp [readLineFrom]
  | cons chunk chunks ih =>
    rw [List.flatten_cons, cutLine?_append] at h
    cases hChunk : cutLine? chunk with
    | some p =>
      rw [hChunk] at h
      cases h
    | none =>
      rw [hChunk] at h
      rw [readLineFrom, hChunk, List.flatten_cons, ← List.append_assoc]
      exact ih (Option.map_eq_none_iff.mp h)

/-- Reading a line takes it away, and the rest is a source that ends or fails in the same way. -/
theorem readLine_of_cutLine? {s : Source} {line after : Bytes}
    (h : cutLine? s.bytes = some (line, after)) :
    ∃ rest : Source, rest.bytes = after ∧ rest.fault = s.fault ∧ s.readLine = .ok (line, rest) :=
  readLineFrom_of_cutLine? h

theorem readLine_of_none {s : Source} (h : cutLine? s.bytes = none) :
    s.readLine = match s.fault with
      | none => .ok (s.bytes, ⟨[], none⟩)
      | some e => .error e := readLineFrom_of_none h

/-- After the empty line there is nothing left. -/
theorem eq_empty_of_readLine {s rest : Source} (h : s.readLine = .ok ([], rest)) :
    rest = .empty := by
  cases hCut : cutLine? s.bytes with
  | some p =>
    obtain ⟨line, after⟩ := p
    obtain ⟨_, -, -, hRead⟩ := readLine_of_cutLine? hCut
    rw [hRead] at h
    cases h
    exact absurd (length_of_cutLine? hCut).2 (Nat.lt_irrefl 0)
  | none =>
    rw [readLine_of_none hCut] at h
    split at h
    · simp only [Except.ok.injEq, Prod.mk.injEq] at h
      exact h.2.symm
    · cases h

/-! ## Line by line -/

theorem lines_of_cutLine? {s : Source} {line after : Bytes}
    (h : cutLine? s.bytes = some (line, after)) {rest : Source} (hBytes : rest.bytes = after)
    (hFault : rest.fault = s.fault) : s.lines = trimLine line :: rest.lines := by
  obtain ⟨body, hBody, rfl, hEq⟩ := exists_of_cutLine? h
  rw [lines, lines, hFault, hBytes, hEq, trimLine_append_newline]
  cases s.fault with
  | none => simp only [segments_append hBody, List.map_cons]
  | some e => simp only [endedSegments_append hBody, List.map_cons]

theorem lines_of_none {s : Source} (h : cutLine? s.bytes = none) :
    s.lines = match s.fault with
      | none => if s.bytes = [] then [] else [trimLine s.bytes]
      | some _ => [] := by
  have hEnd := cutLine?_eq_none_iff.mp h
  rw [lines]
  cases s.fault with
  | none =>
    rw [trimLine_of_not_mem hEnd]
    simp only [segments_of_not_mem hEnd]
    split <;> rfl
  | some e => simp only [endedSegments_of_not_mem hEnd, List.map_nil]

/-- What reading a line of the source comes to: its first line and a source of the others, or its
end, or its error. -/
inductive Reads (s : Source) : Except SystemError (Bytes × Source) → Prop where
  | line {b : UInt8} {bs : Bytes} {rest : Source} (hFault : rest.fault = s.fault)
      (hLines : s.lines = trimLine (b :: bs) :: rest.lines) : Reads s (.ok (b :: bs, rest))
  | ended {rest : Source} (hFault : s.fault = none) (hLines : s.lines = []) :
      Reads s (.ok ([], rest))
  | failed {e : SystemError} (hFault : s.fault = some e) (hLines : s.lines = []) :
      Reads s (.error e)

theorem reads_of_readLine {s : Source} {result : Except SystemError (Bytes × Source)}
    (h : s.readLine = result) : Reads s result := by
  subst h
  cases hCut : cutLine? s.bytes with
  | some p =>
    obtain ⟨line, after⟩ := p
    obtain ⟨rest, hBytes, hFault, hRead⟩ := readLine_of_cutLine? hCut
    have hLines := lines_of_cutLine? hCut hBytes hFault
    obtain ⟨b, bs, rfl⟩ := List.exists_cons_of_length_pos (length_of_cutLine? hCut).2
    rw [hRead]
    exact .line hFault hLines
  | none =>
    have hLines := lines_of_none hCut
    rw [readLine_of_none hCut]
    cases hFault : s.fault with
    | some e =>
      rw [hFault] at hLines
      exact .failed hFault hLines
    | none =>
      rw [hFault] at hLines
      cases hBytes : s.bytes with
      | nil =>
        rw [hBytes] at hLines
        exact .ended hFault hLines
      | cons b bs =>
        rw [hBytes] at hLines
        exact .line hFault.symm hLines

end Source

end LineSieve
