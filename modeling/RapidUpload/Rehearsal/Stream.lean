import RapidUpload.Reader.Basic

/-!
# Scripted streams

A stream that splits its bytes as a script says, gives more than it is asked for, fails at some
read, or ends with nothing.
-/

namespace RapidUpload.Rehearsal

/-- A stream with the script of its reads. -/
structure Stream where
  bytes : ByteArray
  position : Nat
  /-- The most bytes each read gives, in order; the last holds for all later ones. -/
  caps : List Nat
  /-- Gives as much as the cap allows, whatever is asked. -/
  greedy : Bool
  /-- The number of the read that fails. -/
  failing : Option Nat
  /-- Ends with nothing instead of no bytes. -/
  endsWithNothing : Bool
  /-- Reads so far. -/
  reads : Nat

namespace Stream

/-- A stream that gives what it is asked for. -/
def ofBytes (bytes : ByteArray) : Stream := ⟨bytes, 0, [], false, none, false, 0⟩

/-- Bytes still to come. -/
def left (s : Stream) : Nat := s.bytes.size - s.position

/-- The bytes the script would give for a count. -/
def share (s : Stream) (ask : Option Int) : Nat :=
  let wanted := match ask with
    | none => s.left
    | some n => if n < 0 || s.greedy then s.left else min n.toNat s.left
  match s.caps with
  | [] => wanted
  | cap :: _ => min wanted cap

/-- Goes on to the next read's cap. -/
def nextCap : List Nat → List Nat
  | _ :: d :: rest => d :: rest
  | caps => caps

/-- One read by the script. -/
def read (ask : Option Int) : Step Stream (Option ByteArray) := fun s =>
  let after := { s with reads := s.reads + 1, caps := nextCap s.caps }
  if s.failing = some after.reads then .error (.stream "stream read failed") after
  else if s.left = 0 ∧ s.endsWithNothing then .ok none after
  else
    .ok (some (s.bytes.window s.position (s.share ask)))
      { after with position := s.position + min (s.share ask) s.left }

theorem left_read {ask : Option Int} {s s' : Stream} {out : Option ByteArray}
    (h : read ask s = .ok out s') : s'.left + (out.map ByteArray.size).getD 0 ≤ s.left := by
  simp only [read] at h
  split at h
  · cases h
  · split at h
    · cases h
      simp [left]
    · cases h
      simp only [left, Option.map_some, Option.getD_some, ByteArray.size_window]
      omega

instance : Reader Stream where
  read := read
  left := left
  left_read := left_read

end Stream

end RapidUpload.Rehearsal
