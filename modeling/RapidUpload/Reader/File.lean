import RapidUpload.Bytes.Sparse
import RapidUpload.Reader.Basic

/-!
# Open files

The bytes of an open file with the one position that reads, writes and moves share.

* `FileLimits`: how far a file goes, and how much memory has room for.
* `FileCursor.read`: at most some count of bytes, or all the rest.
* `FileCursor.seek`: moves, also past the end.
* `FileCursor.write`: writes over the bytes at the position.
-/

namespace RapidUpload

/-- Bytes that stand around every array of bytes in memory. -/
def frameSize : Nat := 33

/-- The limits files are subject to: those of the file system and of memory. Positions and sizes
are signed numbers of sixty-four bits, and memory has room for the mebibyte copied at a time. -/
structure FileLimits where
  /-- The last position a file can be moved to. -/
  reach : Nat
  /-- The counts of bytes that memory has room for end before this one. -/
  memory : Nat
  reach_lt : reach < pow2 63
  lt_memory : 1024 * 1024 < memory
  memory_le : memory + frameSize ≤ pow2 63

namespace FileLimits

/-- The widest limits. -/
def widest : FileLimits :=
  ⟨pow2 63 - 1, pow2 63 - frameSize, by decide, by decide, by decide⟩

/-- The largest count of bytes that memory has room for. -/
def largest (limits : FileLimits) : Nat := limits.memory - 1

variable (limits : FileLimits)

theorem largest_lt : limits.largest < limits.memory :=
  Nat.sub_lt (Nat.zero_lt_of_lt limits.lt_memory) Nat.one_pos

theorem le_largest : 1024 * 1024 ≤ limits.largest := Nat.le_sub_one_of_lt limits.lt_memory

theorem largest_pos : 0 < limits.largest := Nat.lt_of_lt_of_le (by decide) limits.le_largest

theorem largest_lt_pow2 : limits.largest < pow2 63 :=
  Nat.lt_of_lt_of_le limits.largest_lt (Nat.le_of_add_right_le limits.memory_le)

end FileLimits

/-- The bytes of an open file with a position. -/
structure FileCursor where
  limits : FileLimits
  bytes : Sparse
  position : Nat

namespace FileCursor

/-- An empty file. -/
def empty (limits : FileLimits) : FileCursor := ⟨limits, .empty, 0⟩

/-- The position at the start. -/
def ofBytes (limits : FileLimits) (bytes : ByteArray) : FileCursor := ⟨limits, .ofBytes bytes, 0⟩

/-- Bytes from the position on. -/
def left (c : FileCursor) : Nat := c.bytes.size - c.position

/-- Writes at the position. -/
def write (new : ByteArray) : FileCursor → FileCursor
  | ⟨limits, bytes, position⟩ => ⟨limits, bytes.write position new, position + new.size⟩

/-! ### Reads -/

/-- Takes at most `n` bytes, if memory has room for `room` bytes. -/
def take (room n : Nat) : Step FileCursor ByteArray := fun c =>
  if c.limits.memory ≤ room then .error (.undefined .noMemory) c
  else
    .ok (c.bytes.window c.position n) { c with position := c.position + min n c.left }

/-- Takes all bytes that are left. -/
def takeAll : Step FileCursor ByteArray := fun c => take c.left c.left c

/-- Reads: no count or minus one asks for all the rest, and a count below is none. Room for all
that is asked for is made at once. -/
def read (ask : Option Int) : Step FileCursor ByteArray :=
  match ask with
  | none => takeAll
  | some n =>
    if !inWord n then throw (.undefined .outOfRange)
    else if n < -1 then throw (.undefined .negativeCount)
    else if n < 0 then takeAll
    else if !inWord (n + frameSize) then throw (.undefined .outOfRange)
    else take n.toNat n.toNat

theorem left_take {room n : Nat} {c c' : FileCursor} {out : ByteArray}
    (h : take room n c = .ok out c') : c'.left + out.size = c.left := by
  unfold take at h
  split at h
  · cases h
  · cases h
    simp only [left, Sparse.size_window]
    omega

theorem left_read {ask : Option Int} {c c' : FileCursor} {out : ByteArray}
    (h : read ask c = .ok out c') : c'.left + out.size = c.left := by
  cases ask with
  | none => exact left_take h
  | some n =>
    simp only [read] at h
    split at h
    · cases h
    · split at h
      · cases h
      · split at h
        · exact left_take h
        · split at h
          · cases h
          · exact left_take h

/-! ### Moves -/

/-- Moves to a position, also past the end. -/
def seek (n : Int) : Step FileCursor Int := fun c =>
  if !inWord n then .error (.undefined .noFilePosition) c
  else if n < 0 ∨ c.limits.reach < n then .error (.undefined .unreachablePosition) c
  else .ok n { c with position := n.toNat }

end FileCursor

end RapidUpload
