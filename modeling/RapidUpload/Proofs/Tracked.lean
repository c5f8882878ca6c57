import RapidUpload.Proofs.Delivery
import RapidUpload.Proofs.Parallel

/-!
# Streams whose reads are kept

What was taken from a stream shows in its reads.  A tracked stream keeps them beside any other
stream, each with what was asked for and what came of it, and reads as that stream does.

* `Fetch`: a read of a stream.
* `Tracked`: a stream and its reads so far; `Tracked.taken` are the bytes they gave.
* `Tracked.Along R whole`: a stream in `R` with what is left, of which the rest was taken.
* `Keeps.tracked`: what reads keep of a stream, they keep along a tracked one.
-/

namespace RapidUpload

open Step

variable {ρ π : Type} {limit : Nat}

/-- A read: what was asked for, and what came of it. -/
structure Fetch where
  ask : Option Int
  result : Except Fault (Option ByteArray)

/-- The bytes a read gave; nothing and a failure give none. -/
def Fetch.bytes (x : Fetch) : ByteArray :=
  match x.result with
  | .ok out => out.getD .empty
  | .error _ => .empty

/-- A stream and its reads so far. -/
structure Tracked (ρ : Type) where
  stream : ρ
  fetches : List Fetch

namespace Tracked

/-- A stream before any read. -/
def ofStream (r : ρ) : Tracked ρ := ⟨r, []⟩

/-- The bytes that were read so far. -/
def taken (t : Tracked ρ) : ByteArray := ByteArray.join (t.fetches.map Fetch.bytes)

/-- Keeps a read, however it ends. -/
def note (t : Tracked ρ) (ask : Option Int) (result : Except Fault (Option ByteArray)) (r : ρ) :
    Tracked ρ :=
  ⟨r, t.fetches ++ [⟨ask, result⟩]⟩

theorem taken_note (t : Tracked ρ) (ask : Option Int) (result : Except Fault (Option ByteArray))
    (r : ρ) : (t.note ask result r).taken = t.taken ++ (Fetch.mk ask result).bytes := by
  simp only [taken, note, List.map_append, List.map_cons, List.map_nil, ByteArray.join_append]
  exact congrArg _ ByteArray.append_empty

/-- The stream is in `R` with what is left of the whole, and the bytes before that were taken. -/
structure Along (R : ρ → ByteArray → Prop) (whole : ByteArray) (t : Tracked ρ)
    (rest : ByteArray) : Prop where
  stream : R t.stream rest
  whole : whole = t.taken ++ rest

variable {R : ρ → ByteArray → Prop} {whole rest : ByteArray}

theorem along_ofStream {r : ρ} (h : R r whole) : Along R whole (ofStream r) whole :=
  ⟨h, ByteArray.empty_append.symm⟩

/-- After a read that gave some of what was left, that much more was taken. -/
theorem Along.note {t : Tracked ρ} {rest' : ByteArray} {out : Option ByteArray} {r : ρ}
    (h : Along R whole t rest) (ask : Option Int) (hsplit : rest = out.getD .empty ++ rest')
    (hr : R r rest') : Along R whole (t.note ask (.ok out) r) rest' := by
  refine ⟨hr, ?_⟩
  rw [taken_note, ByteArray.append_assoc, h.whole, hsplit]
  rfl

/-- Where everything after a position is left, everything before it was taken. -/
theorem Along.taken_eq {t : Tracked ρ} {n : Nat} (h : Along R whole t (whole.since n)) :
    t.taken = whole.window 0 n := by
  have hall := (ByteArray.window_append_since whole n).trans h.whole
  exact (ByteArray.append_left_inj _).mp hall.symm

/-! ### Reading -/

variable [Reader ρ]

/-- Reads from the stream and keeps the read. -/
def read (ask : Option Int) : Step (Tracked ρ) (Option ByteArray) := fun t =>
  match Reader.read ask t.stream with
  | .ok out r => .ok out (t.note ask (.ok out) r)
  | .error e r => .error e (t.note ask (.error e) r)

instance : Reader (Tracked ρ) where
  read := read
  left t := Reader.left t.stream
  left_read h := by
    simp only [read] at h
    split at h
    · rename_i he
      cases h
      exact Reader.left_read he
    · cases h

/-- A read ends as that of the stream does, and is kept. -/
theorem ends_read {ask : Option Int} {t : Tracked ρ} {Q : Option ByteArray → Tracked ρ → Prop}
    {E : Fault → Tracked ρ → Prop} :
    Ends (Reader.read ask) t Q E ↔
      Ends (Reader.read ask) t.stream (fun out r => Q out (t.note ask (.ok out) r))
        (fun e r => E e (t.note ask (.error e) r)) := by
  simp only [Ends, Reader.read, read]
  cases Reader.read ask t.stream <;> rfl

end Tracked

/-- What a read gives is taken. -/
theorem Tracked.taken_read [Reader ρ] {ask : Option Int} {t t' : Tracked ρ}
    {out : Option ByteArray} (h : Reader.read ask t = .ok out t') :
    t'.taken = t.taken ++ out.getD .empty := by
  have hread : Ends (Reader.read ask) t (fun out t' => t'.taken = t.taken ++ out.getD .empty)
      (fun _ _ => True) :=
    ends_read.mpr ((ends_run _ _).mono (fun _ _ _ => taken_note _ _ _ _) fun _ _ _ => trivial)
  exact (ends_of_ok hread h :)

/-- **What reads keep, they keep along a tracked stream.** -/
theorem Keeps.tracked [Reader ρ] {R : ρ → ByteArray → Prop} (hR : Keeps limit R)
    (whole : ByteArray) : Keeps limit (Tracked.Along R whole) := by
  intro t content ask h ha
  rw [Tracked.ends_read]
  refine (hR h.stream ha).mono ?_ fun _ _ h => h
  rintro out r ⟨rest, hp, hr⟩
  exact ⟨rest, hp, h.note _ hp.split hr⟩

/-- A tracked stream reads as the stream does. -/
theorem Tracked.inStep_read [Reader ρ] (ask : Option Int) :
    InStep Eq (fun t r => t.stream = r) (Reader.read ask : Step (Tracked ρ) (Option ByteArray))
      (Reader.read ask : Step ρ (Option ByteArray)) := by
  rintro t _ rfl
  simp only [Reader.read, read]
  cases Reader.read ask t.stream with
  | ok out r => exact .ok rfl rfl
  | error e r => exact .error e rfl

/-- Reading up to a count goes in step where each read does. -/
theorem Reader.inStep_readUpTo [Reader ρ] [Reader π] {T : ρ → π → Prop}
    (hread : ∀ ask, InStep Eq T (Reader.read ask : Step ρ (Option ByteArray))
      (Reader.read ask : Step π (Option ByteArray))) (n : Nat) :
    InStep Eq T (Reader.readUpTo n : Step ρ ByteArray) (Reader.readUpTo n : Step π ByteArray) := by
  -- on the count still wanted
  induction n using Nat.strongRecOn with
  | ind n ih =>
    unfold Reader.readUpTo
    split
    · exact inStep_pure rfl
    · refine (hread _).bind ?_
      rintro out _ rfl
      cases out with
      | none => exact inStep_pure rfl
      | some bytes =>
        dsimp only
        split
        · exact inStep_pure rfl
        · refine (ih _ (by omega)).bind ?_
          rintro more _ rfl
          exact inStep_pure rfl

theorem Tracked.inStep_readUpTo [Reader ρ] (n : Nat) :
    InStep Eq (fun t r => t.stream = r) (Reader.readUpTo n : Step (Tracked ρ) ByteArray)
      (Reader.readUpTo n : Step ρ ByteArray) :=
  Reader.inStep_readUpTo inStep_read n

end RapidUpload
