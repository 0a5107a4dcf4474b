import LineSieve.Text.Utf8

/-!
# Bytes in pieces

Bytes that grow at their end. They are kept as the pieces they were put together from, so that
adding a piece takes no longer the more bytes there are.

* `Pieces.add`: puts bytes at the end.
* `Pieces.contents`: all bytes.
-/

namespace LineSieve

structure Pieces where
  /-- The last piece first. -/
  pieces : List Bytes
  size : Nat
  size_eq : size = pieces.flatten.length

namespace Pieces

def empty : Pieces := ⟨[], 0, rfl⟩

def add (p : Pieces) (bytes : Bytes) : Pieces :=
  ⟨bytes :: p.pieces, bytes.length + p.size, by simp [p.size_eq]⟩

def contents (p : Pieces) : Bytes := p.pieces.reverse.flatten

@[simp]
theorem contents_empty : empty.contents = [] := rfl

@[simp]
theorem contents_add (p : Pieces) (bytes : Bytes) :
    (p.add bytes).contents = p.contents ++ bytes := by
  simp [contents, add]

theorem length_contents (p : Pieces) : p.contents.length = p.size := by
  rw [p.size_eq, contents]
  induction p.pieces with
  | nil => rfl
  | cons b bs ih => simp [ih, Nat.add_comm]

end Pieces

end LineSieve
