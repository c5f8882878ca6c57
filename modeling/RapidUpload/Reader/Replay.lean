import RapidUpload.Reader.Basic

/-!
# Replays

A stream some of whose bytes were read before and wait in a buffer.  A read is served from the
buffer while bytes wait there, and only a read of all the rest takes from both.
-/

namespace RapidUpload

/-- A buffer with a position, and the stream that goes on after it. -/
structure Replay (ρ : Type) where
  buffer : ByteArray
  position : Nat
  inner : ρ

namespace Replay

variable {ρ : Type}

/-- A stream with nothing read before. -/
def bare (r : ρ) : Replay ρ := ⟨.empty, 0, r⟩

/-- Bytes that wait in the buffer. -/
def waiting (r : Replay ρ) : Nat := r.buffer.size - r.position

variable [Reader ρ]

/-- Reads from the stream after the buffer. -/
def readInner (ask : Option Int) : Step (Replay ρ) (Option ByteArray) :=
  Step.within ⟨inner, fun i r => { r with inner := i }⟩ (Reader.read ask)

/-- All that waits in the buffer and all the stream still gives. -/
def readAll : Step (Replay ρ) (Option ByteArray) := fun r =>
  match readInner (some (-1)) { r with position := r.buffer.size } with
  | .ok (some bytes) r' => .ok (some (r.buffer.since r.position ++ bytes)) r'
  | .ok none r' => .error (.undefined .noRest) r'
  | .error e r' => .error e r'

/-- At most `n` of the bytes that wait in the buffer. -/
def readBuffer (n : Nat) : Step (Replay ρ) (Option ByteArray) := fun r =>
  .ok (some (r.buffer.window r.position n))
    { r with position := r.position + min n r.waiting }

/-- Reads from the buffer while bytes wait there, then from the stream. -/
def read (ask : Option Int) : Step (Replay ρ) (Option ByteArray) := fun r =>
  if r.waiting = 0 then readInner ask r
  else
    match ask with
    | none => readAll r
    | some n => if n < 0 then readAll r else readBuffer n.toNat r

/-- Bytes still to come. -/
def left (r : Replay ρ) : Nat := r.waiting + Reader.left r.inner

theorem readInner_ok {ask : Option Int} {r r' : Replay ρ} {out : Option ByteArray}
    (h : readInner ask r = .ok out r') :
    Reader.read ask r.inner = .ok out r'.inner ∧ r'.buffer = r.buffer ∧
      r'.position = r.position := by
  simp only [readInner, Step.within] at h
  split at h
  · rename_i he
    cases h
    exact ⟨he, rfl, rfl⟩
  · cases h

theorem left_readAll {r r' : Replay ρ} {out : Option ByteArray} (h : readAll r = .ok out r') :
    r'.left + (out.map ByteArray.size).getD 0 ≤ r.left := by
  simp only [readAll] at h
  split at h
  · rename_i he
    cases h
    obtain ⟨hi, hb, hp⟩ := readInner_ok he
    have := Reader.left_read hi
    simp only [Option.map_some, Option.getD_some] at this ⊢
    simp only [left, waiting, hb, hp, ByteArray.size_append, ByteArray.size_since]
    omega
  · cases h
  · cases h

theorem left_read {ask : Option Int} {r r' : Replay ρ} {out : Option ByteArray}
    (h : read ask r = .ok out r') : r'.left + (out.map ByteArray.size).getD 0 ≤ r.left := by
  simp only [read] at h
  split at h
  · obtain ⟨hi, hb, hp⟩ := readInner_ok h
    have := Reader.left_read hi
    simp only [left, waiting, hb, hp]
    omega
  · cases ask with
    | none => exact left_readAll h
    | some n =>
      simp only at h
      split at h
      · exact left_readAll h
      · cases h
        simp only [left, waiting, Option.map_some, Option.getD_some, ByteArray.size_window]
        omega

instance : Reader (Replay ρ) where
  read := read
  left := left
  left_read := left_read

end Replay

end RapidUpload
