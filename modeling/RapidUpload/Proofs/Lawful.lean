import RapidUpload.Sample
import RapidUpload.Proofs.Opening
import RapidUpload.Proofs.Tracked

/-!
# Lawful streams

A lawful stream answers every read out of what is left: a read for a count gives some of it, at most
as many bytes as are asked for, a read of all the rest gives all of it, and only the end gives no
bytes to a read that asked for some.  A sample takes the start of such a stream and leaves a stream
of the same kind with all the content again.

* `Answers ask content bytes rest`: what a read gives of a content, and what it leaves.
* `Lawful r content`: the stream answers every read out of the content.
* `lawful_replay`: a lawful stream behind a buffer is lawful.
* `Replay.Whole`: whatever was read of a replay before, it answers out of what is left.
* `Sampler.sample_whole`: a sample loses nothing.
-/

namespace RapidUpload

open Step

variable {ρ : Type} {limit : Nat} {ask : Option Int}

/-! ### Answers -/

/-- A read without a count or for a negative one asks for all the rest. -/
def AsksAll (ask : Option Int) : Prop := ∀ n ∈ ask, n < 0

/-- Out of a content a read gives some bytes and leaves the rest: at most as many as are asked for,
all where all are asked for, and none only where none are asked for or left. -/
structure Answers (ask : Option Int) (content bytes rest : ByteArray) : Prop where
  split : content = bytes ++ rest
  size_le : ∀ n ∈ ask, 0 ≤ n → (bytes.size : Int) ≤ n
  empty : bytes.size = 0 → ask = some 0 ∨ content.size = 0
  all : AsksAll ask → rest.size = 0

theorem eq_some_of_not_asksAll (h : ¬AsksAll ask) : ∃ n : Nat, ask = some (n : Int) := by
  cases ask with
  | none => exact absurd (fun n hn => nomatch hn) h
  | some m =>
    have hm : 0 ≤ m := Int.not_lt.mp fun hlt => h fun n hn => Option.some.inj hn ▸ hlt
    exact ⟨m.toNat, congrArg some (Int.toNat_of_nonneg hm).symm⟩

theorem not_asksAll (n : Nat) : ¬AsksAll (some (n : Int)) := fun h =>
  Int.not_lt.mpr (Int.natCast_nonneg n) (h _ rfl)

/-- An answer to a read for a positive count is a piece. -/
theorem Answers.piece {n : Int} {content bytes rest : ByteArray}
    (h : Answers (some n) content bytes rest) (hn : 0 < n) :
    IsPiece n.toNat content (some bytes) rest where
  split := h.split
  size_le := by
    have := h.size_le n rfl (Int.le_of_lt hn)
    rw [Option.getD_some]
    omega
  empty h0 := by
    rcases h.empty h0 with hzero | hend
    · cases hzero
      exact absurd hn (Int.lt_irrefl 0)
    · exact hend

namespace Replay

/-- While bytes wait, a read for a count is answered by the buffer alone. -/
theorem answers_readBuffer {r : Replay ρ} (h : r.waiting ≠ 0) (n : Nat) (rest : ByteArray) :
    Answers (some (n : Int)) (r.buffer.since r.position ++ rest) (r.buffer.window r.position n)
      (r.buffer.since (r.position + min n r.waiting) ++ rest) where
  split := by rw [← ByteArray.append_assoc, r.window_append_waiting]
  size_le m hm _ := by
    cases hm
    rw [ByteArray.size_window]
    exact Int.ofNat_le.mpr (Nat.min_le_left _ _)
  empty h0 := by
    have hwait : r.waiting = r.buffer.size - r.position := rfl
    rw [ByteArray.size_window] at h0
    exact .inl (by simp only [Option.some.injEq]; omega)
  all ha := absurd ha (not_asksAll n)

/-- All that waits and all that the stream gives answer a read of all the rest. -/
theorem answers_readAll {r : Replay ρ} (h : r.waiting ≠ 0) (ha : AsksAll ask)
    {content bytes rest : ByteArray} (hans : Answers (some (-1)) content bytes rest) :
    Answers ask (r.buffer.since r.position ++ content) (r.buffer.since r.position ++ bytes)
      rest where
  split := by rw [hans.split, ByteArray.append_assoc]
  size_le n hn h0 := absurd h0 (Int.not_le.mpr (ha n hn))
  empty h0 := by
    rw [ByteArray.size_append, r.size_waiting] at h0
    omega
  all _ := hans.all fun n hn => by cases hn; decide

end Replay

/-! ### Lawful streams -/

variable [Reader ρ]

/-- Every read is answered, and keeps `R` between a stream and what it has still to give. -/
def Obeys (R : ρ → ByteArray → Prop) : Prop :=
  ∀ {r : ρ} {content : ByteArray} (ask : Option Int), R r content →
    Ends (Reader.read ask) r
      (fun out r' => ∃ bytes rest, out = some bytes ∧ Answers ask content bytes rest ∧ R r' rest)
      (fun _ _ => False)

/-- The stream answers every read out of the content. -/
def Lawful (r : ρ) (content : ByteArray) : Prop := ∃ R : ρ → ByteArray → Prop, Obeys R ∧ R r content

variable {R : ρ → ByteArray → Prop}

theorem Obeys.keeps (hR : Obeys R) : Keeps limit R := by
  intro r content ask h ha
  refine (hR _ h).mono ?_ fun _ _ h => h.elim
  rintro _ r' ⟨bytes, rest, rfl, hans, hr⟩
  exact ⟨rest, hans.piece ha, hr⟩

theorem Obeys.tracked (hR : Obeys R) (whole : ByteArray) : Obeys (Tracked.Along R whole) := by
  intro t content ask h
  rw [Tracked.ends_read]
  refine (hR ask h.stream).mono ?_ fun _ _ h => h
  rintro _ r ⟨bytes, rest, rfl, hans, hr⟩
  exact ⟨bytes, rest, rfl, hans, h.note ask hans.split hr⟩

/-- However many reads there were, they gave a beginning of the content, and the stream goes on with
the rest. -/
theorem Obeys.mapM_ends (hR : Obeys R) (asks : List (Option Int)) {r : ρ} {content : ByteArray}
    (h : R r content) :
    Ends (asks.mapM Reader.read) r
      (fun outs r' => ∃ rest,
        content = ByteArray.join (outs.map (·.getD .empty)) ++ rest ∧ R r' rest)
      (fun _ _ => False) := by
  induction asks generalizing r content with
  | nil =>
    rw [List.mapM_nil, ends_pure]
    exact ⟨content, ByteArray.empty_append.symm, h⟩
  | cons ask asks ih =>
    rw [List.mapM_cons, ends_bind]
    refine (hR ask h).mono ?_ fun _ _ h => h
    rintro _ r' ⟨bytes, rest, rfl, hans, hr⟩
    rw [ends_bind]
    refine (ih hr).mono ?_ fun _ _ h => h
    rintro outs r'' ⟨rest', hrest, hr'⟩
    refine ends_pure.mpr ⟨rest', ?_, hr'⟩
    rw [List.map_cons, ByteArray.join_cons, ByteArray.append_assoc, ← hrest]
    exact hans.split

/-! ### Replays -/

namespace Replay

/-- What waits in the buffer is followed by what the stream has still to give. -/
def Before (R : ρ → ByteArray → Prop) (r : Replay ρ) (content : ByteArray) : Prop :=
  ∃ rest, R r.inner rest ∧ content = r.buffer.since r.position ++ rest

theorem read_of_empty {r : Replay ρ} (h : r.waiting = 0) (ask : Option Int) :
    read ask r = readInner ask r := if_pos h

theorem read_of_all {r : Replay ρ} (h : r.waiting ≠ 0) (ha : AsksAll ask) :
    read ask r = readAll r := by
  cases ask with
  | none => exact if_neg h
  | some n => exact (if_neg h).trans (if_pos (ha n rfl))

theorem read_of_count {r : Replay ρ} (h : r.waiting ≠ 0) (n : Nat) :
    read (some (n : Int)) r = readBuffer n r := by
  refine (if_neg h).trans ((if_neg ?_).trans ?_)
  · exact Int.not_lt.mpr (Int.natCast_nonneg n)
  · rw [Int.toNat_natCast]

/-- **Behind a buffer a stream that answers its reads still does.** -/
theorem obeys_before (hR : Obeys R) : Obeys (Before R) := by
  rintro r _ ask ⟨content, h, rfl⟩
  show Ends (read ask) r _ _
  by_cases hz : r.waiting = 0
  · have hread := r.read_of_empty hz ask
    have hb := r.since_eq_empty hz
    rw [Ends, hread, ← Ends, readInner, ends_within]
    refine (hR ask h).mono ?_ fun _ _ h => h
    rintro _ i ⟨bytes, rest, rfl, hans, hi⟩
    refine ⟨bytes, rest, rfl, ?_, rest, hi, ?_⟩
    · rwa [hb, ByteArray.empty_append]
    · rw [hb, ByteArray.empty_append]
  · by_cases ha : AsksAll ask
    · obtain ⟨_, i, hx, bytes, rest, rfl, hans, hi⟩ := ok_of_ends (hR (some (-1)) h)
      have hread : read ask r =
          .ok (some (r.buffer.since r.position ++ bytes)) ⟨r.buffer, r.buffer.size, i⟩ := by
        rw [read_of_all hz ha]
        simp only [readAll, readInner, Step.within, hx]
      refine ends_ok hread ⟨_, rest, rfl, answers_readAll hz ha hans, rest, hi, ?_⟩
      rw [ByteArray.since_of_size_le (Nat.le_refl _), ByteArray.empty_append]
    · obtain ⟨n, rfl⟩ := eq_some_of_not_asksAll ha
      exact ends_ok (read_of_count hz n)
        ⟨_, _, rfl, answers_readBuffer hz n content, content, h, rfl⟩

/-- What a read gives is no longer waiting. -/
theorem waiting_read {r r' : Replay ρ} {out : Option ByteArray} (h : read ask r = .ok out r') :
    r'.waiting = r.waiting - (out.getD .empty).size := by
  by_cases hz : r.waiting = 0
  · rw [read_of_empty hz] at h
    obtain ⟨-, hb, hp⟩ := readInner_ok h
    simp only [waiting, hb, hp] at hz ⊢
    omega
  · by_cases ha : AsksAll ask
    · rw [read_of_all hz ha, readAll] at h
      split at h
      · rename_i hi
        cases h
        obtain ⟨-, hb, hp⟩ := readInner_ok hi
        simp only [waiting, hb, hp, Option.getD_some, ByteArray.size_append, ByteArray.size_since]
        omega
      · cases h
      · cases h
    · obtain ⟨n, rfl⟩ := eq_some_of_not_asksAll ha
      rw [read_of_count hz n] at h
      cases h
      simp only [waiting, Option.getD_some, ByteArray.size_window]
      omega

/-- While bytes wait, a read for a count leaves the stream alone. -/
theorem inner_read {r r' : Replay ρ} {out : Option ByteArray} (h : read ask r = .ok out r')
    (hz : r.waiting ≠ 0) (ha : ¬AsksAll ask) : r'.inner = r.inner := by
  obtain ⟨n, rfl⟩ := eq_some_of_not_asksAll ha
  rw [read_of_count hz n] at h
  cases h
  rfl

end Replay

/-- **A lawful stream is lawful behind a buffer**, with the bytes that wait there before its own. -/
theorem lawful_replay {r : Replay ρ} {rest : ByteArray} (h : Lawful r.inner rest) :
    Lawful r (r.buffer.since r.position ++ rest) := by
  obtain ⟨R, hR, hr⟩ := h
  exact ⟨Replay.Before R, Replay.obeys_before hR, rest, hr, rfl⟩

/-- Whatever was read of the replay before, it gave a beginning of the content and answers the next
read out of the rest.  Before `ahead` bytes were given a read for a count does not touch the stream
behind the buffer. -/
def Replay.Whole (x : Replay ρ) (content : ByteArray) (ahead : Nat) : Prop :=
  ∀ asks : List (Option Int), ∃ outs x' given rest, asks.mapM Reader.read x = .ok outs x' ∧
    given = ByteArray.join (outs.map (·.getD .empty)) ∧ content = given ++ rest ∧
    ∀ ask, ∃ bytes x'' rest', Reader.read ask x' = .ok (some bytes) x'' ∧
      Answers ask rest bytes rest' ∧
      (given.size < ahead → ¬AsksAll ask → x''.inner = x'.inner)

/-- **A lawful stream behind a buffer loses nothing.** -/
theorem Replay.whole_of_obeys (hR : Obeys R) {x : Replay ρ} {rest : ByteArray}
    (h : R x.inner rest) :
    x.Whole (x.buffer.since x.position ++ rest) x.waiting := by
  -- what waits is what is left but for what the stream had at the start
  have hS : Obeys fun (y : Replay ρ) left =>
      Before R y left ∧ y.waiting = left.size - rest.size := by
    intro y left ask ⟨hy, hw⟩
    refine ((obeys_before hR ask hy).and (ends_run _ _)).mono ?_ fun _ _ h => h.1
    rintro _ y' ⟨⟨bytes, left', rfl, hans, hy'⟩, hrun⟩
    refine ⟨bytes, left', rfl, hans, hy', ?_⟩
    have hsize := congrArg ByteArray.size hans.split
    rw [ByteArray.size_append] at hsize
    rw [waiting_read hrun, hw, Option.getD_some]
    omega
  intro asks
  have hstart : Before R x (x.buffer.since x.position ++ rest) ∧
      x.waiting = (x.buffer.since x.position ++ rest).size - rest.size := by
    refine ⟨⟨rest, h, rfl⟩, ?_⟩
    rw [ByteArray.size_append, x.size_waiting, Nat.add_sub_cancel_right]
  obtain ⟨outs, x', hrun, left, hleft, hbefore, hw⟩ := ok_of_ends (hS.mapM_ends asks hstart)
  refine ⟨outs, x', _, left, hrun, rfl, hleft, fun ask => ?_⟩
  obtain ⟨_, y, hnext, bytes, left', rfl, hans, -⟩ := ok_of_ends (obeys_before hR ask hbefore)
  refine ⟨bytes, y, left', hnext, hans, fun hlt => inner_read hnext ?_⟩
  have hsize := congrArg ByteArray.size hleft
  simp only [ByteArray.size_append, x.size_waiting] at hsize
  omega

/-! ### Samples -/

/-- A sample is the start of the content, with its hash, and just that was taken off the stream; the
sample and the stream behind it are a replay of all the content. -/
def Sampler.Replays (x : Sampler) (r : ρ) (content : ByteArray) : Prop :=
  ∀ log, ∃ sample t, x.sample ⟨Tracked.ofStream r, log⟩ = .ok sample t ∧
    sample.bytes = content.window 0 x.budget ∧ sample.preHash = sha1.hex sample.bytes ∧
    t.state.taken = sample.bytes ∧ (sample.replay t.state).Whole content sample.bytes.size

theorem Sampler.replays_of_lawful {r : ρ} {content : ByteArray} (h : Lawful r content)
    (x : Sampler) : x.Replays r content := by
  obtain ⟨R, hR, hr⟩ := h
  intro log
  have htracked : Obeys (Tracked.Along R content) := hR.tracked content
  have hrun : Ends x.sample ⟨Tracked.ofStream r, log⟩
      (fun sample t => sample = ⟨content.window 0 x.budget, sha1.hex (content.window 0 x.budget)⟩ ∧
        Tracked.Along R content t.state (content.since x.budget)) (fun _ _ => False) := by
    have hkeeps : Keeps x.budget (Tracked.Along R content) := htracked.keeps
    unfold sample
    rw [ends_bind, ends_quiet]
    refine (hkeeps.readUpTo_ends (Tracked.along_ofStream hr)).mono ?_
      fun _ _ h => absurd h (Nat.lt_irrefl _)
    rintro _ t ⟨rfl, ht⟩
    rw [ends_bind, ends_tell, ends_pure]
    exact ⟨rfl, ht⟩
  obtain ⟨_, t, hsample, rfl, ht⟩ := ok_of_ends hrun
  refine ⟨_, t, hsample, rfl, rfl, ht.taken_eq, ?_⟩
  have hwhole := Replay.whole_of_obeys htracked
    (x := (⟨content.window 0 x.budget, 0, t.state⟩ : Replay (Tracked ρ))) ht
  rwa [ByteArray.since_zero, ByteArray.window_append_since] at hwhole

/-- **A sample loses nothing.**  Sampling a lawful stream takes exactly the first bytes of its
content, up to the budget, and the replay that is left gives all of the content again to any reads,
without touching the stream before the sample was given.  It is so also where the stream is itself a
replay, of any bytes before a lawful stream. -/
theorem Sampler.sample_whole {r : ρ} {content : ByteArray} (h : Lawful r content) (x : Sampler) :
    x.Replays r content ∧ ∀ (buffer : ByteArray) (position : Nat),
      x.Replays (⟨buffer, position, r⟩ : Replay ρ) (buffer.since position ++ content) :=
  ⟨x.replays_of_lawful h, fun buffer position =>
    x.replays_of_lawful (lawful_replay (r := ⟨buffer, position, r⟩) h)⟩

/-! ### A scripted stream -/

namespace Rehearsal.Stream

/-- The stream gives what it is asked for. -/
structure Plain (s : Stream) : Prop where
  greedy : s.greedy = false
  failing : s.failing = none
  caps : s.caps = []
  ends : s.endsWithNothing = false

theorem Plain.answers {s : Stream} (h : s.Plain) (ask : Option Int) :
    Answers ask (s.bytes.since s.position) (s.bytes.window s.position (s.share ask))
      (s.bytes.since (s.position + min (s.share ask) s.left)) where
  split := ((⟨s.bytes, s.position, ()⟩ : Replay Unit).window_append_waiting _).symm
  size_le n hn h0 := by
    cases hn
    have hshare : s.share (some n) = min n.toNat s.left := by
      simp [share, h.greedy, h.caps, Int.not_lt.mpr h0]
    rw [ByteArray.size_window, hshare]
    omega
  empty h0 := by
    have hleft : s.left = s.bytes.size - s.position := rfl
    rw [ByteArray.size_window] at h0
    by_cases hz : s.bytes.size - s.position = 0
    · exact .inr ((ByteArray.size_since _ _).trans hz)
    · left
      simp only [share, h.caps] at h0
      split at h0
      · omega
      · rename_i n
        simp only [h.greedy, Bool.or_false, decide_eq_true_eq] at h0
        split at h0
        · omega
        · exact congrArg some (by omega)
  all ha := by
    have hshare : s.share ask = s.left := by
      cases ask with
      | none => simp [share, h.caps]
      | some n => simp [share, h.caps, ha n rfl]
    have hleft : s.left = s.bytes.size - s.position := rfl
    rw [hshare, ByteArray.size_since]
    omega

/-- Such a stream is lawful. -/
theorem Plain.lawful {s : Stream} (h : s.Plain) : Lawful s (s.bytes.since s.position) := by
  refine ⟨fun s content => s.Plain ∧ content = s.bytes.since s.position, ?_, h, rfl⟩
  rintro s _ ask ⟨h, rfl⟩
  show Ends (read ask) s _ _
  unfold Ends read
  simp only [h.failing, h.ends, reduceCtorEq, Bool.false_eq_true, and_false, if_false]
  refine ⟨_, _, rfl, h.answers ask, ⟨h.greedy, rfl, ?_, rfl⟩, rfl⟩
  simp only [h.caps, nextCap]

end Rehearsal.Stream

/-- One of two bytes is sampled. -/
theorem Sampler.sample_whole_pair :
    (⟨1⟩ : Sampler).Replays (Rehearsal.Stream.ofBytes ⟨#[1, 2]⟩) ⟨#[1, 2]⟩ := by
  have hplain : (Rehearsal.Stream.ofBytes ⟨#[1, 2]⟩).Plain := ⟨rfl, rfl, rfl, rfl⟩
  exact (sample_whole hplain.lawful ⟨1⟩).1

end RapidUpload
