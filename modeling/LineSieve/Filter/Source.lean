import LineSieve.Text.Utf8
import LineSieve.SystemError

/-!
# Sources of bytes

A source hands out its bytes in chunks, then ends or fails. How the bytes are cut into chunks makes
no difference to its lines.

* `Source.readLine`: the next line with its line feed.
* `Source.size`: the bytes that are left, which every line read makes fewer.
-/

namespace LineSieve

structure Source where
  chunks : List Bytes
  /-- The error that comes after the last chunk; `none` if the source ends there. -/
  fault : Option SystemError

namespace Source

def newline : UInt8 := 10

def carriageReturn : UInt8 := 13

/-- A source that ends after the given bytes. -/
def ofBytes (bytes : Bytes) : Source := ⟨[bytes], none⟩

def empty : Source := ⟨[], none⟩

/-- The bytes up to and with the first line feed, and those after it; `none` if there is no line
feed. -/
def cutLine? : Bytes → Option (Bytes × Bytes)
  | [] => none
  | b :: bs =>
    if b = newline then some ([b], bs)
    else (cutLine? bs).map fun (line, rest) => (b :: line, rest)

/-- Reads on a line of which `before` has been read. -/
def readLineFrom (before : Bytes) (fault : Option SystemError) :
    List Bytes → Except SystemError (Bytes × Source)
  | [] =>
    match fault with
    | none => .ok (before, ⟨[], none⟩)
    | some e => .error e
  | chunk :: chunks =>
    match cutLine? chunk with
    | some (line, rest) => .ok (before ++ line, ⟨rest :: chunks, fault⟩)
    | none => readLineFrom (before ++ chunk) fault chunks

/-- Reads a line with its line feed. The last line may lack one; after it comes the empty line. A
line that the error cuts off is lost. -/
def readLine (s : Source) : Except SystemError (Bytes × Source) := readLineFrom [] s.fault s.chunks

def size (s : Source) : Nat := s.chunks.flatten.length

theorem length_of_cutLine? {bytes line rest : Bytes} (h : cutLine? bytes = some (line, rest)) :
    line.length + rest.length = bytes.length ∧ 0 < line.length := by
  induction bytes generalizing line with
  | nil => simp [cutLine?] at h
  | cons b bs ih =>
    unfold cutLine? at h
    split at h
    · simp only [Option.some.injEq, Prod.mk.injEq] at h
      obtain ⟨rfl, rfl⟩ := h
      simp [Nat.add_comm]
    · cases hc : cutLine? bs with
      | none => simp [hc] at h
      | some p =>
        obtain ⟨l, r⟩ := p
        simp only [hc, Option.map_some, Option.some.injEq, Prod.mk.injEq] at h
        obtain ⟨rfl, rfl⟩ := h
        have := ih hc
        simp only [List.length_cons]
        omega

theorem size_of_readLineFrom {before line : Bytes} {fault : Option SystemError}
    {chunks : List Bytes} {s : Source} (h : readLineFrom before fault chunks = .ok (line, s)) :
    line.length + s.size = before.length + chunks.flatten.length := by
  induction chunks generalizing before with
  | nil =>
    unfold readLineFrom at h
    split at h
    · simp only [Except.ok.injEq, Prod.mk.injEq] at h
      obtain ⟨rfl, rfl⟩ := h
      simp [size]
    · cases h
  | cons chunk chunks ih =>
    unfold readLineFrom at h
    split at h
    · next hc =>
      simp only [Except.ok.injEq, Prod.mk.injEq] at h
      obtain ⟨rfl, rfl⟩ := h
      have := (length_of_cutLine? hc).1
      simp only [size, List.flatten_cons, List.length_append]
      omega
    · have := ih h
      simp only [List.length_append, List.flatten_cons] at this ⊢
      omega

/-- A line that is read makes the source smaller by its length. -/
theorem size_of_readLine {s s' : Source} {line : Bytes} (h : s.readLine = .ok (line, s')) :
    line.length + s'.size = s.size := by
  have := size_of_readLineFrom h
  simpa [size] using this

end Source

end LineSieve
