import RapidUpload.Number.Power
import RapidUpload.Act
import RapidUpload.Bytes.Basic

/-!
# Readers

A stream of bytes read in pieces.  A read asks for at most some count, or with none or a negative
one for all the rest, and may give less; nothing and no bytes both mean the end.

* `Reader`: a stream that holds finitely many bytes.
* `Reader.readUpTo`: reads until a count is reached or the stream ends.
* `Reader.readCount`: the same for any whole number.
-/

namespace RapidUpload

/-- A stream of bytes. `left` bounds the bytes still to come, and a read takes what it gives off
this bound. -/
class Reader (ρ : Type) where
  read : Option Int → Step ρ (Option ByteArray)
  left : ρ → Nat
  left_read : ∀ {ask : Option Int} {r r' : ρ} {out : Option ByteArray},
    read ask r = .ok out r' → left r' + (out.map ByteArray.size).getD 0 ≤ left r

namespace Reader

variable {ρ : Type} [Reader ρ]

/-- Reads until `n` bytes are there or the stream ends. -/
def readUpTo (n : Nat) : Step ρ ByteArray := do
  if _hn : n = 0 then return .empty
  else
    match ← read (some (n : Int)) with
    | none => return .empty
    | some bytes =>
      if _h : bytes.size = 0 then return .empty
      else return bytes ++ (← readUpTo (n - bytes.size))
termination_by n
decreasing_by omega

/-- Reads until `n` bytes are there or the stream ends; where `n` is not positive, nothing is
read. -/
def readCount (n : Int) : Step ρ ByteArray := readUpTo n.toNat

end Reader

/-- The counts a read takes. -/
def inWord (n : Int) : Bool := -(pow2 63 : Int) ≤ n && n < pow2 63

/-- Bytes in memory with a position. -/
structure Cursor where
  bytes : ByteArray
  position : Nat

namespace Cursor

/-- The position at the start. -/
def ofBytes (bytes : ByteArray) : Cursor := ⟨bytes, 0⟩

/-- The bytes from the position on. -/
def rest (c : Cursor) : ByteArray := c.bytes.since c.position

/-- Takes at most `n` bytes. -/
def take (n : Nat) : Step Cursor ByteArray := fun c =>
  .ok (c.bytes.window c.position n)
    { c with position := c.position + min n (c.bytes.size - c.position) }

/-- Takes all bytes that are left. -/
def takeAll : Step Cursor ByteArray := fun c =>
  .ok c.rest { c with position := max c.position c.bytes.size }

/-- Reads as memory does: no count or a negative one asks for all the rest. -/
def read (ask : Option Int) : Step Cursor ByteArray :=
  match ask with
  | none => takeAll
  | some n =>
    if !inWord n then throw (.undefined .outOfRange)
    else if n < 0 then takeAll
    else take n.toNat

/-- Bytes from the position on. -/
def left (c : Cursor) : Nat := c.bytes.size - c.position

theorem left_take {n : Nat} {c c' : Cursor} {out : ByteArray} (h : take n c = .ok out c') :
    c'.left + out.size = c.left := by
  cases h
  simp only [left, ByteArray.size_window]
  omega

theorem left_takeAll {c c' : Cursor} {out : ByteArray} (h : takeAll c = .ok out c') :
    c'.left + out.size = c.left := by
  cases h
  simp only [left, rest, ByteArray.size_since]
  omega

theorem left_read {ask : Option Int} {c c' : Cursor} {out : ByteArray}
    (h : read ask c = .ok out c') : c'.left + out.size = c.left := by
  cases ask with
  | none => exact left_takeAll h
  | some n =>
    simp only [read] at h
    split at h
    · cases h
    · split at h
      · exact left_takeAll h
      · exact left_take h

/-- Moves to a position of bytes in memory, also past the end. -/
def seek (n : Int) : Step Cursor Int := fun c =>
  if !inWord n then .error (.undefined .outOfRange) c
  else if n < 0 then .error (.undefined .negativePosition) c
  else .ok n { c with position := n.toNat }

end Cursor

instance : Reader Cursor where
  read ask := some <$> Cursor.read ask
  left := Cursor.left
  left_read {ask r r' out} h := by
    simp only [Functor.map, EStateM.map] at h
    split at h
    · rename_i he
      cases h
      exact Nat.le_of_eq (Cursor.left_read he)
    · cases h

end RapidUpload
