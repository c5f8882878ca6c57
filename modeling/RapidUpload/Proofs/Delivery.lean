import RapidUpload.Reader.Replay
import RapidUpload.Proofs.Action
import RapidUpload.Proofs.Bytes

/-!
# Streams that deliver a content

A stream delivers a content when each read for a positive count gives some next bytes of it, at
most as many as are asked for, and nothing only once all of it was given.  How the content is split
over the reads is up to the stream.  A stream may have a limit: a read for more may fail instead.

* `Delivers limit r content`: the stream `r` delivers `content`, and no read for up to `limit`
  bytes fails.
* `readUpTo_ends`: reading up to a count takes exactly that many of the bytes to come, or all of
  them where there are fewer, and the rest is still delivered.
* `delivers_replay`: a stream behind a buffer delivers what waits in the buffer and then its own.
-/

namespace RapidUpload

open Step

variable {ρ π : Type} [Reader ρ] {limit n : Nat}

/-- `out` is a piece of at most `n` bytes at the start of `content`, before `rest`, and it is empty
only at the end. -/
structure IsPiece (n : Nat) (content : ByteArray) (out : Option ByteArray) (rest : ByteArray) :
    Prop where
  split : content = out.getD .empty ++ rest
  size_le : (out.getD .empty).size ≤ n
  empty : (out.getD .empty).size = 0 → content.size = 0

/-- The `k` bytes at a position are a piece of those from there on; `k` is zero only at the end. -/
theorem isPiece_window (content : ByteArray) (position : Nat) {k n : Nat} (hk : k ≤ n)
    (hz : k = 0 → content.size ≤ position) :
    IsPiece n (content.since position) (some (content.window position k))
      (content.since (position + min k (content.size - position))) := by
  have hs := ByteArray.size_window content position k
  refine ⟨?_, ?_, ?_⟩
  · rw [Option.getD_some]
    conv => lhs; rw [← ByteArray.window_append_since (content.since position) k]
    rw [ByteArray.window_since, ByteArray.since_since, Nat.add_zero]
    congr 1
    by_cases hle : k ≤ content.size - position
    · rw [Nat.min_eq_left hle]
    · rw [ByteArray.since_of_size_le (by omega), ByteArray.since_of_size_le (by omega)]
  · rw [Option.getD_some]
    omega
  · rw [Option.getD_some, ByteArray.size_since]
    omega

/-- Reads keep `R` between a stream and what it has still to give: each takes a piece off, or fails
where more than `limit` bytes are asked for. -/
def Keeps (limit : Nat) (R : ρ → ByteArray → Prop) : Prop :=
  ∀ {r : ρ} {content : ByteArray} {ask : Int}, R r content → 0 < ask →
    Ends (Reader.read (some ask)) r
      (fun out r' => ∃ rest, IsPiece ask.toNat content out rest ∧ R r' rest)
      (fun _ _ => limit < ask.toNat)

/-- The stream gives the content, piece by piece. -/
def Delivers (limit : Nat) (r : ρ) (content : ByteArray) : Prop :=
  ∃ R : ρ → ByteArray → Prop, Keeps limit R ∧ R r content

theorem Delivers.read {r : ρ} {content : ByteArray} (h : Delivers limit r content) (ask : Int)
    (ha : 0 < ask) :
    Ends (Reader.read (some ask)) r
      (fun out r' => ∃ rest, IsPiece ask.toNat content out rest ∧ Delivers limit r' rest)
      (fun _ _ => limit < ask.toNat) := by
  obtain ⟨R, hR, hr⟩ := h
  exact (hR hr ha).mono (fun _ _ ⟨rest, hp, hr'⟩ => ⟨rest, hp, R, hR, hr'⟩) fun _ _ h => h

/-- A stream with a higher limit delivers also within a lower one. -/
theorem Delivers.anti {r : ρ} {content : ByteArray} {limit' : Nat} (h : Delivers limit r content)
    (hl : limit' ≤ limit) : Delivers limit' r content := by
  obtain ⟨R, hR, hr⟩ := h
  exact ⟨R, fun hr hn => (hR hr hn).mono (fun _ _ h => h) fun _ _ h => Nat.lt_of_le_of_lt hl h, hr⟩

/-! ### Reading up to a count -/

theorem IsPiece.rest_eq {content rest : ByteArray} {out : Option ByteArray}
    (h : IsPiece n content out rest) : content.since (out.getD .empty).size = rest := by
  rw [h.split, ByteArray.append_since]

/-- Reading up to a count takes the first `n` bytes and keeps what every read keeps. -/
theorem Keeps.readUpTo_ends {R : ρ → ByteArray → Prop} (hR : Keeps limit R) {r : ρ}
    {content : ByteArray} (h : R r content) :
    Ends (Reader.readUpTo n) r
      (fun bytes r' => bytes = content.window 0 n ∧ R r' (content.since n))
      (fun _ _ => limit < n) := by
  -- on the count still wanted: each read that is not the last takes some of it
  induction n using Nat.strongRecOn generalizing r content with
  | ind n ih =>
    unfold Reader.readUpTo
    split
    · rename_i hn
      subst hn
      exact ends_pure.mpr ⟨(content.window_zero 0).symm, content.since_zero.symm ▸ h⟩
    · rename_i hn
      have atEnd : ∀ {r' : ρ} {out : Option ByteArray} {rest : ByteArray},
          IsPiece n content out rest → R r' rest → (out.getD .empty).size = 0 →
          ByteArray.empty = content.window 0 n ∧ R r' (content.since n) := by
        intro r' out rest hp hr ho
        have hc := hp.empty ho
        have hrest := hp.rest_eq
        rw [ho, ByteArray.since_zero] at hrest
        rw [ByteArray.window_of_size_le (by omega), ByteArray.since_of_size_le (by omega)]
        rw [ByteArray.size_eq_zero_iff] at hc
        exact ⟨hc.symm, by rwa [← hc, hrest]⟩
      refine ends_bind.mpr ((hR h (by omega : (0 : Int) < n)).mono ?_ fun _ _ h => h)
      rw [Int.toNat_natCast]
      rintro (_ | bytes) r' ⟨rest, hp, hr⟩
      · exact ends_pure.mpr (atEnd hp hr rfl)
      · dsimp only
        split
        · rename_i hb
          exact ends_pure.mpr (atEnd hp hr hb)
        · rename_i hb
          have hle : bytes.size ≤ n := hp.size_le
          have hs : content = bytes ++ rest := hp.split
          obtain ⟨m, rfl⟩ := Nat.exists_eq_add_of_le hle
          rw [Nat.add_sub_cancel_left]
          refine ends_bind.mpr ((ih m (by omega) hr).mono ?_ fun _ _ h => by omega)
          rintro more r'' ⟨rfl, hr''⟩
          rw [ends_pure, hs, ByteArray.append_window, ByteArray.append_since_add]
          exact ⟨rfl, hr''⟩

/-- **Reading up to a count.**  Of what a stream delivers it takes the first `n` bytes, and the
stream goes on with the others. -/
theorem readUpTo_ends {r : ρ} {content : ByteArray} (h : Delivers limit r content) :
    Ends (Reader.readUpTo n) r
      (fun bytes r' => bytes = content.window 0 n ∧ Delivers limit r' (content.since n))
      (fun _ _ => limit < n) := by
  obtain ⟨R, hR, hr⟩ := h
  exact (hR.readUpTo_ends hr).mono (fun _ _ ⟨hb, hr'⟩ => ⟨hb, R, hR, hr'⟩) fun _ _ h => h

/-! ### Replays -/

namespace Replay

theorem size_waiting (r : Replay π) : (r.buffer.since r.position).size = r.waiting :=
  ByteArray.size_since _ _

/-- Where nothing waits, no bytes are left in the buffer. -/
theorem since_eq_empty {r : Replay π} (h : r.waiting = 0) :
    r.buffer.since r.position = .empty :=
  ByteArray.size_eq_zero_iff.mp (r.size_waiting.trans h)

/-- What is read from the buffer is the start of what waits there. -/
theorem window_append_waiting (r : Replay π) (n : Nat) :
    r.buffer.window r.position n ++ r.buffer.since (r.position + min n r.waiting) =
      r.buffer.since r.position := by
  have hwait : r.waiting = r.buffer.size - r.position := rfl
  have hcut := ByteArray.window_append_since (r.buffer.since r.position) n
  rw [ByteArray.window_since, Nat.add_zero, ByteArray.since_since] at hcut
  rw [← hcut]
  congr 1
  -- past its end a buffer has nothing more to give
  by_cases hle : n ≤ r.waiting
  · rw [Nat.min_eq_left hle]
  · rw [ByteArray.since_of_size_le (by omega), ByteArray.since_of_size_le (by omega)]

end Replay

/-- **A replay delivers what waits in its buffer, and then what its stream delivers.** -/
theorem delivers_replay {r : Replay ρ} {rest : ByteArray} (h : Delivers limit r.inner rest) :
    Delivers limit r (r.buffer.since r.position ++ rest) := by
  refine ⟨fun r content => ∃ rest, Delivers limit r.inner rest ∧
    content = r.buffer.since r.position ++ rest, ?_, rest, h, rfl⟩
  rintro r _ ask ⟨rest, h, rfl⟩ ha
  by_cases hz : r.waiting = 0
  · -- nothing waits: the stream itself is read
    have hb := r.since_eq_empty hz
    have hread : Replay.read (some ask) r = Replay.readInner (some ask) r := if_pos hz
    show Ends (Replay.read (some ask)) r _ _
    rw [Ends, hread, ← Ends, Replay.readInner, ends_within, hb]
    simp only [ByteArray.empty_append]
    refine (h.read ask ha).mono ?_ fun _ _ h => h
    rintro out i ⟨rest', hp, hi⟩
    exact ⟨rest', hp, rest', hi, by rw [hb, ByteArray.empty_append]⟩
  · have hread : Replay.read (some ask) r = Replay.readBuffer ask.toNat r :=
      (if_neg hz).trans (if_neg (by omega))
    have hwait : r.waiting = r.buffer.size - r.position := rfl
    refine ends_ok hread
      ⟨r.buffer.since (r.position + min ask.toNat r.waiting) ++ rest, ⟨?_, ?_, ?_⟩, rest, h, rfl⟩
    · rw [Option.getD_some, ← ByteArray.append_assoc, r.window_append_waiting]
    · rw [Option.getD_some, ByteArray.size_window]
      exact Nat.min_le_left _ _
    · intro he
      rw [Option.getD_some, ByteArray.size_window] at he
      omega

theorem delivers_bare {r : ρ} {content : ByteArray} (h : Delivers limit r content) :
    Delivers limit (Replay.bare r) content := by
  have := delivers_replay (r := Replay.bare r) h
  rwa [Replay.bare, ByteArray.since_of_size_le (Nat.le_refl 0), ByteArray.empty_append] at this

end RapidUpload
