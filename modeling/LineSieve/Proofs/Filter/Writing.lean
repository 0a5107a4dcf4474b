import LineSieve.Filter.Sink

/-!
# Writing piece by piece

* `Sink.writeEach`: writes pieces one after the other, up to the first error.
* `Sink.HasRoom`, `Sink.writeEach_of_room`: where the device has room for them, all pieces are
  accepted, whether or not there is a buffer.
* `Sink.Immediate`: a sink without a buffer, whose device has taken all that was accepted.
* `Sink.Exposed`: such a sink, by what its device holds and has room for.
  `Exposed.writeEach_of_fits` and `Exposed.writeEach_of_lt` say that the pieces are written as their
  concatenation would be: all of them, or as many bytes as fit.
-/

namespace LineSieve

/-! ## Devices -/

namespace Device

/-- There is room for so many bytes. -/
def Fits (room : Option Nat) (n : Nat) : Prop := ∀ r, room = some r → n ≤ r

theorem fits_add {room : Option Nat} {m n : Nat} (h : Fits room (m + n)) :
    Fits room m ∧ Fits (room.map (· - m)) n := by
  constructor
  · intro r hr
    exact Nat.le_of_add_right_le (h r hr)
  · intro r hr
    obtain ⟨r, hRoom, rfl⟩ := Option.map_eq_some_iff.mp hr
    exact Nat.le_sub_of_add_le' (h r hRoom)

theorem write_of_fits {d : Device} {bytes : Bytes} (h : Fits d.room bytes.length) :
    d.write bytes = (⟨d.stored.add bytes, d.room.map (· - bytes.length), d.fault⟩, .ok ()) := by
  obtain ⟨stored, room, fault⟩ := d
  cases room with
  | none => rfl
  | some r => simp [write, h r rfl]

theorem write_of_lt {d : Device} {bytes : Bytes} {r : Nat} (hRoom : d.room = some r)
    (h : r < bytes.length) :
    d.write bytes = (⟨d.stored.add (bytes.take r), some 0, d.fault⟩, .error d.fault) := by
  obtain ⟨stored, room, fault⟩ := d
  cases hRoom
  simp [write, Nat.not_le.mpr h]

end Device

namespace Sink

/-- Writes pieces one after the other, up to the first error. -/
def writeEach (s : Sink) : List Bytes → Sink × Except SystemError Unit
  | [] => (s, .ok ())
  | piece :: pieces =>
    match s.write piece with
    | (s, .ok ()) => s.writeEach pieces
    | (s, .error e) => (s, .error e)

theorem writeEach_cons_of_ok {s s' : Sink} {piece : Bytes} (h : s.write piece = (s', .ok ()))
    (pieces : List Bytes) : s.writeEach (piece :: pieces) = s'.writeEach pieces := by
  simp only [writeEach, h]

theorem writeEach_cons_of_error {s s' : Sink} {piece : Bytes} {e : SystemError}
    (h : s.write piece = (s', .error e)) (pieces : List Bytes) :
    s.writeEach (piece :: pieces) = (s', .error e) := by
  simp only [writeEach, h]

theorem exists_of_writeEach_append {s s' : Sink} {pieces more : List Bytes}
    (h : s.writeEach (pieces ++ more) = (s', .ok ())) :
    ∃ s₁, s.writeEach pieces = (s₁, .ok ()) ∧ s₁.writeEach more = (s', .ok ()) := by
  induction pieces generalizing s with
  | nil => exact ⟨s, rfl, h⟩
  | cons piece pieces ih =>
    rw [List.cons_append] at h
    rcases hWrite : s.write piece with ⟨s₁, _ | _⟩
    · rw [writeEach_cons_of_error hWrite] at h
      cases h
    · rw [writeEach_cons_of_ok hWrite] at h
      obtain ⟨s₂, hPieces, hMore⟩ := ih h
      exact ⟨s₂, (writeEach_cons_of_ok hWrite pieces).trans hPieces, hMore⟩

/-! ## Where there is room -/

/-- The bytes that were written, whether they are passed on or still pending. -/
def accepted (s : Sink) : Bytes := s.device.written ++ s.pending.contents

/-- The device has room for `n` bytes beside those that are pending. -/
def HasRoom (s : Sink) (n : Nat) : Prop :=
  Device.Fits s.device.room (s.pending.contents.length + n)

theorem hasRoom_of_unlimited {s : Sink} (h : s.device.room = none) (n : Nat) : s.HasRoom n := by
  intro r hr
  rw [h] at hr
  cases hr

theorem flush_of_room {s : Sink} {n : Nat} (h : s.HasRoom n) :
    ∃ s', s.flush = (s', .ok ()) ∧ s'.HasRoom n ∧ s'.pending.contents = [] ∧
      s'.accepted = s.accepted := by
  obtain ⟨hPending, hRest⟩ := Device.fits_add h
  rw [flush, Device.write_of_fits hPending]
  refine ⟨_, rfl, ?_, rfl, ?_⟩
  · simpa [HasRoom] using hRest
  · simp [accepted, Device.written]

/-- What goes past the buffer must not overtake what is pending in it. -/
theorem place_of_room {s : Sink} {bytes : Bytes} {n : Nat} (h : s.HasRoom (bytes.length + n))
    (hOrder : s.capacity ≤ bytes.length → s.pending.contents = []) :
    ∃ s', s.place bytes = (s', .ok ()) ∧ s'.HasRoom n ∧ s'.accepted = s.accepted ++ bytes := by
  unfold place
  split
  · rename_i hPast
    have hPending : s.pending.contents = [] := hOrder hPast
    rw [HasRoom, hPending, List.length_nil, Nat.zero_add] at h
    obtain ⟨hBytes, hRest⟩ := Device.fits_add h
    rw [Device.write_of_fits hBytes]
    refine ⟨_, rfl, ?_, ?_⟩
    · simpa [HasRoom, hPending] using hRest
    · simp [accepted, Device.written, hPending]
  · refine ⟨_, rfl, ?_, ?_⟩
    · simpa [HasRoom, Nat.add_assoc] using h
    · simp [accepted]

theorem write_of_room {s : Sink} {bytes : Bytes} {n : Nat} (h : s.HasRoom (bytes.length + n)) :
    ∃ s', s.write bytes = (s', .ok ()) ∧ s'.HasRoom n ∧ s'.accepted = s.accepted ++ bytes := by
  unfold write
  split
  · obtain ⟨s₁, hFlush, hRoom, hPending, hAccepted⟩ := flush_of_room h
    rw [hFlush, ← hAccepted]
    exact place_of_room hRoom fun _ => hPending
  · rename_i hFits
    refine place_of_room h fun hPast => List.eq_nil_of_length_eq_zero ?_
    rw [Pieces.length_contents]
    omega

theorem writeEach_of_room {s : Sink} {pieces : List Bytes} {n : Nat}
    (h : s.HasRoom (pieces.flatten.length + n)) :
    ∃ s', s.writeEach pieces = (s', .ok ()) ∧ s'.HasRoom n ∧
      s'.accepted = s.accepted ++ pieces.flatten := by
  induction pieces generalizing s with
  | nil =>
    rw [List.flatten_nil, List.length_nil, Nat.zero_add] at h
    exact ⟨s, rfl, h, (List.append_nil _).symm⟩
  | cons piece pieces ih =>
    rw [List.flatten_cons, List.length_append, Nat.add_assoc] at h
    obtain ⟨s₁, hWrite, hRoom₁, hAccepted₁⟩ := write_of_room h
    obtain ⟨s₂, hRest, hRoom₂, hAccepted₂⟩ := ih hRoom₁
    refine ⟨s₂, ?_, hRoom₂, ?_⟩
    · rw [writeEach_cons_of_ok hWrite, hRest]
    · rw [hAccepted₂, hAccepted₁, List.flatten_cons, List.append_assoc]

/-! ## Without a buffer -/

/-- There is no buffer, and nothing is pending. -/
structure Immediate (s : Sink) : Prop where
  capacity : s.capacity = 0
  pending : s.pending.contents = []

namespace Immediate

variable {s : Sink}

theorem accepted_eq (h : s.Immediate) : s.accepted = s.device.written := by
  rw [accepted, h.pending, List.append_nil]

theorem flush (h : s.Immediate) : s.flush.1.Immediate := ⟨h.capacity, rfl⟩

theorem place_eq (h : s.Immediate) (bytes : Bytes) :
    s.place bytes = ({ s with device := (s.device.write bytes).1 }, (s.device.write bytes).2) := by
  have hPast : s.capacity ≤ bytes.length := h.capacity ▸ Nat.zero_le _
  rw [Sink.place, if_pos hPast]

theorem write (h : s.Immediate) (bytes : Bytes) : (s.write bytes).1.Immediate := by
  have hFlush := h.flush
  unfold Sink.write
  split
  · rcases hEq : s.flush with ⟨s₁, _ | _⟩
    · rw [hEq] at hFlush
      exact hFlush
    · rw [hEq] at hFlush
      dsimp only
      rw [hFlush.place_eq]
      exact ⟨hFlush.capacity, hFlush.pending⟩
  · rw [h.place_eq]
    exact ⟨h.capacity, h.pending⟩

theorem writeEach (h : s.Immediate) (pieces : List Bytes) : (s.writeEach pieces).1.Immediate := by
  induction pieces generalizing s with
  | nil => exact h
  | cons piece pieces ih =>
    have hPiece := h.write piece
    rcases hEq : s.write piece with ⟨s₁, _ | _⟩
    · rw [writeEach_cons_of_error hEq]
      rwa [hEq] at hPiece
    · rw [writeEach_cons_of_ok hEq]
      rw [hEq] at hPiece
      exact ih hPiece

end Immediate

/-- A sink without a buffer on a device that holds `stored` and has room for `room` more bytes. -/
structure Exposed (s : Sink) (stored : Bytes) (room : Option Nat) (fault : SystemError) : Prop
    extends Immediate s where
  written : s.device.written = stored
  room : s.device.room = room
  fault : s.device.fault = fault

theorem exposed_unbuffered (room : Option Nat) (fault : SystemError) :
    Exposed (.unbuffered ⟨.empty, room, fault⟩) [] room fault := ⟨⟨rfl, rfl⟩, rfl, rfl, rfl⟩

namespace Exposed

variable {s : Sink} {stored : Bytes} {room : Option Nat} {r : Nat} {fault : SystemError}

theorem flush (h : Exposed s stored room fault) :
    ∃ s', s.flush = (s', .ok ()) ∧ Exposed s' stored room fault := by
  obtain ⟨hImmediate, rfl, rfl, rfl⟩ := h
  have hFits : Device.Fits s.device.room s.pending.contents.length := by
    rw [hImmediate.pending]
    exact fun r _ => Nat.zero_le r
  rw [Sink.flush, Device.write_of_fits hFits]
  refine ⟨_, rfl, ⟨hImmediate.capacity, rfl⟩, ?_, ?_, rfl⟩
  · simp [Device.written, hImmediate.pending]
  · simp [hImmediate.pending]

theorem place_of_fits (h : Exposed s stored room fault) {bytes : Bytes}
    (hFits : Device.Fits room bytes.length) :
    ∃ s', s.place bytes = (s', .ok ()) ∧
      Exposed s' (stored ++ bytes) (room.map (· - bytes.length)) fault := by
  obtain ⟨hImmediate, rfl, rfl, rfl⟩ := h
  rw [hImmediate.place_eq, Device.write_of_fits hFits]
  exact ⟨_, rfl, ⟨hImmediate.capacity, hImmediate.pending⟩, Pieces.contents_add _ _, rfl, rfl⟩

theorem place_of_lt (h : Exposed s stored (some r) fault) {bytes : Bytes}
    (hLt : r < bytes.length) :
    ∃ s', s.place bytes = (s', .error fault) ∧ s'.device.written = stored ++ bytes.take r := by
  obtain ⟨hImmediate, rfl, hRoom, rfl⟩ := h
  rw [hImmediate.place_eq, Device.write_of_lt hRoom hLt]
  exact ⟨_, rfl, Pieces.contents_add _ _⟩

/-- A flush before a write has nothing to pass on. -/
theorem exists_write_eq_place (h : Exposed s stored room fault) (bytes : Bytes) :
    ∃ s', Exposed s' stored room fault ∧ s.write bytes = s'.place bytes := by
  unfold write
  split
  · obtain ⟨s', hFlush, h'⟩ := h.flush
    rw [hFlush]
    exact ⟨s', h', rfl⟩
  · exact ⟨s, h, rfl⟩

/-- Pieces that fit are written as their concatenation. -/
theorem writeEach_of_fits (h : Exposed s stored room fault) {pieces : List Bytes}
    (hFits : Device.Fits room pieces.flatten.length) :
    ∃ s', s.writeEach pieces = (s', .ok ()) ∧ s'.device.written = stored ++ pieces.flatten := by
  have hRoom : s.HasRoom (pieces.flatten.length + 0) := by
    rw [HasRoom, h.room, h.pending, List.length_nil, Nat.zero_add]
    exact hFits
  obtain ⟨s', hWrite, -, hAccepted⟩ := writeEach_of_room hRoom
  have hImmediate : s'.Immediate := by
    have hEach := h.toImmediate.writeEach pieces
    rwa [hWrite] at hEach
  refine ⟨s', hWrite, ?_⟩
  rw [← hImmediate.accepted_eq, hAccepted, h.toImmediate.accepted_eq, h.written]

/-- Of pieces that do not fit, the device takes as many bytes as it has room for. -/
theorem writeEach_of_lt (h : Exposed s stored (some r) fault) {pieces : List Bytes}
    (hLt : r < pieces.flatten.length) :
    ∃ s', s.writeEach pieces = (s', .error fault) ∧
      s'.device.written = stored ++ pieces.flatten.take r := by
  induction pieces generalizing s stored r with
  | nil => exact absurd hLt (Nat.not_lt_zero r)
  | cons piece pieces ih =>
    rw [List.flatten_cons] at hLt ⊢
    obtain ⟨s₁, h₁, hWrite⟩ := h.exists_write_eq_place piece
    -- the room ends within this piece or within those after it
    by_cases hPiece : r < piece.length
    · obtain ⟨s₂, hPlace, hWritten⟩ := h₁.place_of_lt hPiece
      refine ⟨s₂, writeEach_cons_of_error (hWrite.trans hPlace) _, ?_⟩
      rw [hWritten, List.take_append_of_le_length (Nat.le_of_lt hPiece)]
    · have hFits : Device.Fits (some r) piece.length := by
        rintro _ ⟨⟩
        exact Nat.not_lt.mp hPiece
      obtain ⟨s₂, hPlace, h₂⟩ := h₁.place_of_fits hFits
      rw [List.length_append] at hLt
      have hPieces : r - piece.length < pieces.flatten.length := by omega
      obtain ⟨s₃, hRest, hWritten⟩ := ih h₂ hPieces
      refine ⟨s₃, ?_, ?_⟩
      · rw [writeEach_cons_of_ok (hWrite.trans hPlace), hRest]
      · rw [hWritten, List.take_append, List.take_of_length_le (Nat.not_lt.mp hPiece),
          List.append_assoc]

end Exposed

end Sink

end LineSieve
