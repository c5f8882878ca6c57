import RapidUpload.Bytes.Basic

/-!
# Sparse bytes

The bytes of a file that may be written far past its end: a byte that was never written is zero,
and takes no room.

* `Sparse.write`: writes bytes from a position on.
* `Sparse.window`: the bytes from a position on, at most so many.
-/

namespace RapidUpload

/-- Bytes in pieces, each with its position, the one that was begun last first. -/
structure Sparse where
  size : Nat
  pieces : List (Nat × ByteArray)

namespace Sparse

/-- No bytes. -/
def empty : Sparse := ⟨0, []⟩

/-- The bytes of an array. -/
def ofBytes (bytes : ByteArray) : Sparse := ⟨bytes.size, [(0, bytes)]⟩

/-- Bytes with others written over them from a position on, which is no further than their end. -/
def overwrite (bytes : ByteArray) (position : Nat) (new : ByteArray) : ByteArray :=
  if position = bytes.size then bytes ++ new
  else bytes.extract 0 position ++ new ++ bytes.since (position + new.size)

/-- Writes bytes from a position on. -/
def write (s : Sparse) (position : Nat) (new : ByteArray) : Sparse :=
  match s with
  | ⟨size, (start, bytes) :: pieces⟩ =>
    if start ≤ position ∧ position ≤ start + bytes.size then
      ⟨max size (position + new.size), (start, overwrite bytes (position - start) new) :: pieces⟩
    else ⟨max size (position + new.size), (position, new) :: (start, bytes) :: pieces⟩
  | ⟨size, []⟩ => ⟨max size (position + new.size), [(position, new)]⟩

/-- A window at a position with what a piece has in it. -/
def paint (position : Nat) (window : ByteArray) (piece : Nat × ByteArray) : ByteArray :=
  let first := max piece.1 position
  let last := min (piece.1 + piece.2.size) (position + window.size)
  if first < last then
    window.extract 0 (first - position) ++ piece.2.extract (first - piece.1) (last - piece.1)
      ++ window.since (last - position)
  else window

/-- The bytes from a position on, at most `n` of them. -/
def window (s : Sparse) (position n : Nat) : ByteArray :=
  s.pieces.reverse.foldl (paint position) (ByteArray.replicate (min n (s.size - position)) 0)

theorem size_paint (position : Nat) (window : ByteArray) (piece : Nat × ByteArray) :
    (paint position window piece).size = window.size := by
  unfold paint
  dsimp only
  split
  · rename_i h
    simp only [ByteArray.size_append, ByteArray.size_extract, ByteArray.size_since]
    omega
  · rfl

theorem size_paintAll (position : Nat) (pieces : List (Nat × ByteArray)) (window : ByteArray) :
    (pieces.foldl (paint position) window).size = window.size := by
  induction pieces generalizing window with
  | nil => rfl
  | cons piece pieces ih => rw [List.foldl_cons, ih, size_paint]

theorem size_window (s : Sparse) (position n : Nat) :
    (s.window position n).size = min n (s.size - position) := by
  rw [window, size_paintAll]
  simp [ByteArray.replicate, ByteArray.size]

end Sparse

end RapidUpload
