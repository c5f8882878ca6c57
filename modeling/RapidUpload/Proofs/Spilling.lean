import RapidUpload.Proofs.Carry
import RapidUpload.Proofs.Opening
import RapidUpload.Proofs.Storage
import RapidUpload.Proofs.Tracked

/-!
# One spill used again

A spill file is one file with one position.  Moves, reads and absorptions may follow each other in
any order, and an absorption may fail with some of its stream already written.  The next one goes on
from wherever the position was left, over whatever the file holds: its hash and its length are those
of the stream, and the file is the old one with the stream spliced in.

* `Spill.Works s content p`: the file holds the content and stands at `p`.
* `Spill.Move`: what can be done with an open spill; `Spill.works_after`: its file always works.
* `Spill.ReadsBack s content`: from the start the spill reads as the content.
* `Spill.absorb_reads_back`: what an absorption leaves to be read, and when it is what it took in.
-/

namespace RapidUpload

open Step

variable {ρ β : Type}

/-! ### What a stream delivers is one content -/

/-- A stream that gives at least a byte at a time delivers no two contents. -/
theorem Delivers.unique [Reader ρ] {limit : Nat} (hl : 0 < limit) {r : ρ} {a b : ByteArray}
    (ha : Delivers limit r a) (hb : Delivers limit r b) : a = b := by
  -- on the bytes of the first: each read takes some off both, or both are at their end
  generalize hn : a.size = n
  induction n using Nat.strongRecOn generalizing r a b with
  | ind n ih =>
    cases hx : (Reader.read (some 1) r : EStateM.Result Fault ρ (Option ByteArray)) with
    | error e r' =>
      have hone : limit < (1 : Int).toNat := ends_of_error (ha.read 1 (by decide)) hx
      exact absurd hone (Nat.not_lt.mpr hl)
    | ok out r' =>
      obtain ⟨a', hpa, ha'⟩ := ends_of_ok (ha.read 1 (by decide)) hx
      obtain ⟨b', hpb, hb'⟩ := ends_of_ok (hb.read 1 (by decide)) hx
      by_cases hz : (out.getD .empty).size = 0
      · rw [ByteArray.size_eq_zero_iff.mp (hpa.empty hz),
          ByteArray.size_eq_zero_iff.mp (hpb.empty hz)]
      · have hsize := congrArg ByteArray.size hpa.split
        rw [ByteArray.size_append] at hsize
        rw [hpa.split, hpb.split, ih a'.size (by omega) ha' hb' rfl]

/-! ### Steps that write nothing -/

namespace FileCursor

/-- The bytes and the limits stay. -/
def Rests (c c' : FileCursor) : Prop := c'.bytes = c.bytes ∧ c'.limits = c.limits

theorem onward_rests : Onward Rests :=
  ⟨fun _ => ⟨rfl, rfl⟩, fun h h' => ⟨h'.1.trans h.1, h'.2.trans h.2⟩⟩

theorem carries_seek (n : Int) : Carries Rests (FileCursor.seek n) := by
  intro c
  by_cases hw : (!inWord n) = true
  · exact ends_error (if_pos hw) (onward_rests.refl c)
  · by_cases hr : n < 0 ∨ c.limits.reach < n
    · exact ends_error ((if_neg hw).trans (if_pos hr)) (onward_rests.refl c)
    · exact ends_ok ((if_neg hw).trans (if_neg hr)) ⟨rfl, rfl⟩

theorem carries_take (room n : Nat) : Carries Rests (take room n) := by
  intro c
  by_cases hr : c.limits.memory ≤ room
  · exact ends_error (if_pos hr) (onward_rests.refl c)
  · exact ends_ok (if_neg hr) ⟨rfl, rfl⟩

theorem carries_read (ask : Option Int) : Carries Rests (FileCursor.read ask) := by
  have hall : Carries Rests takeAll := by
    intro c
    have htake := carries_take c.left c.left c
    cases hx : take c.left c.left c with
    | ok out c' => exact ends_ok hx (ends_of_ok htake hx :)
    | error e c' => exact ends_error hx (ends_of_error htake hx :)
  cases ask with
  | none => exact hall
  | some n =>
    unfold FileCursor.read
    dsimp only
    split
    · exact onward_rests.throw _
    · split
      · exact onward_rests.throw _
      · split
        · exact hall
        · split
          · exact onward_rests.throw _
          · exact carries_take _ _

/-- A read of all the rest gives it, where memory has room. -/
theorem read_all {c : FileCursor} {ask : Option Int} (ha : ask = none ∨ ask = some (-1))
    (hl : c.left < c.limits.memory) : FileCursor.read ask c =
      .ok (c.bytes.window c.position c.left) { c with position := c.position + c.left } := by
  have hall : takeAll c =
      .ok (c.bytes.window c.position c.left) { c with position := c.position + c.left } := by
    rw [takeAll, take, if_neg (Nat.not_le.mpr hl), Nat.min_self]
  rcases ha with rfl | rfl
  · exact hall
  · exact hall

end FileCursor

namespace Spill

variable {s : Spill} {limits : FileLimits} {content : ByteArray} {p : Nat}

/-! ### A file that works -/

/-- Under the limits there is no file yet, or it is open, works and stands at the position. -/
inductive Works (limits : FileLimits) (s : Spill) : ByteArray → Nat → Prop where
  | unmade (h : s.handle = none) (hl : s.disk.limits = limits) : Works limits s .empty 0
  | made {content : ByteArray} {cursor : FileCursor} (h : s.handle = some ⟨cursor, []⟩)
    (hl : cursor.limits = limits) (hb : cursor.bytes.Is content) :
    Works limits s content cursor.position

/-- The bytes of the file; there are none without one. -/
def stored (s : Spill) : ByteArray :=
  match s.handle with
  | none => .empty
  | some handle => handle.cursor.bytes.window 0 handle.cursor.bytes.size

/-- The position of the file, at the start without one. -/
def position (s : Spill) : Nat := (s.handle.map (·.cursor.position)).getD 0

theorem Works.eq (h : s.Works limits content p) : content = s.stored ∧ p = s.position := by
  unfold stored position
  cases h with
  | unmade h hl =>
    rw [h]
    exact ⟨rfl, rfl⟩
  | made h hl hb =>
    rw [h]
    refine ⟨?_, rfl⟩
    dsimp only
    rw [hb.window_eq, hb.size, ByteArray.window_of_size_le (Nat.le_refl _)]

/-- The spill holds the content, wherever it stands. -/
def Retains (s t : Spill) : Prop :=
  ∀ limits content p, s.Works limits content p → ∃ q, t.Works limits content q

theorem onward_retains : Onward Retains where
  refl _ _ _ p h := ⟨p, h⟩
  trans h h' limits content p hs := by
    obtain ⟨q, hq⟩ := h limits content p hs
    exact h' limits content q hq

/-- A step that leaves the bytes of the file as they are. -/
theorem carries_retains {what : SpillStep} {a : Step FileCursor β}
    (ha : Carries FileCursor.Rests a) : Carries Retains (onFile what a) := by
  intro s
  cases hs : s.handle with
  | none =>
    refine ends_error (e := .storage .unwritten .null) (t := s) ?_ (onward_retains.refl s)
    simp only [onFile, hs]
  | some handle =>
    obtain ⟨cursor, broken⟩ := handle
    cases broken with
    | nil =>
      refine (onFile_ends hs).mpr ((ha cursor).mono ?_ ?_)
      all_goals
        rintro _ c hrests limits content p hworks
        cases hworks with
        | unmade h hl => cases h.symm.trans hs
        | made h hl hb =>
          cases h.symm.trans hs
          exact ⟨_, .made rfl (hrests.2.trans hl) (hrests.1 ▸ hb)⟩
    | cons b broken =>
      -- a file with a broken step does not count as one that works
      refine (ends_run _ s).mono ?_ ?_
      all_goals
        rintro _ t - limits content p hworks
        cases hworks with
        | unmade h hl => cases h.symm.trans hs
        | made h hl hb => cases h.symm.trans hs

theorem carries_seek_retains (n : Int) : Carries Retains (Spill.seek n) := by
  intro s
  have hseek : Carries Retains (onFile .seek (FileCursor.seek n)) :=
    carries_retains (FileCursor.carries_seek n)
  have h := hseek s
  cases hx : onFile .seek (FileCursor.seek n) s with
  | ok m t => exact ends_ok (by rw [Spill.seek, hx]) (ends_of_ok h hx :)
  | error e t =>
    have ht := ends_of_error h hx
    -- a fault is at most worded anew
    cases e with
    | undefined u =>
      cases u <;> exact ends_error (by rw [Spill.seek, hx]) ht
    | _ => exact ends_error (by rw [Spill.seek, hx]) ht

theorem carries_rewind_retains : Carries Retains rewind :=
  onward_retains.bind (carries_seek_retains 0) fun _ => onward_retains.pure _

theorem carries_read_retains (ask : Option Int) : Carries Retains (Spill.read ask) :=
  carries_retains (FileCursor.carries_read ask)

/-! ### Absorbing at any time -/

variable [Reader ρ]

/-- The file holds the content with the chunks over it, from the position on, and stands behind
them. -/
def Takes (limits : FileLimits) (content : ByteArray) (p : Nat) (chunks : List ByteArray)
    (t : Spill) : Prop :=
  ∃ cursor, t.handle = some ⟨cursor, []⟩ ∧ cursor.limits = limits ∧
    cursor.bytes.Is (content.splice p (ByteArray.join chunks)) ∧
    cursor.position = p + (ByteArray.join chunks).size

theorem takes_writeAll (s : Spill) {cursor : FileCursor} (hb : cursor.bytes.Is content)
    {chunks : List ByteArray} (hc : ∀ chunk ∈ chunks, chunk.size ≠ 0) :
    Takes cursor.limits content cursor.position chunks (s.onto (cursor.writeAll chunks)) := by
  obtain ⟨his, hpos⟩ := FileCursor.writeAll_is hb hc
  exact ⟨_, rfl, cursor.limits_writeAll chunks, his, hpos⟩

/-- **Absorbing at any time.**  The file takes the chunks of the stream over what it holds, from the
position on; where the stream fails, those that came before. -/
theorem Works.absorb (h : s.Works limits content p) (r : ρ) (log : Array Log.Line) :
    Ends Spill.absorb ⟨(r, s), log⟩
      (fun hasher t => ∃ chunks, Drained r chunks t.state.1 ∧
        hasher = (Hasher.new sha1).update sha1 (ByteArray.join chunks) ∧
        t.state.2.length = hasher.length ∧ Takes limits content p chunks t.state.2)
      (fun e t => t.state.2.Works limits content p ∨
        ∃ chunks, Broken e r chunks t.state.1 ∧ Takes limits content p chunks t.state.2) := by
  have into : ∀ {s : Spill} {cursor : FileCursor} {content : ByteArray} (log),
      cursor.bytes.Is content → Ends Spill.absorb ⟨(r, s.onto cursor), log⟩
        (fun hasher t => ∃ chunks, Drained r chunks t.state.1 ∧
          hasher = (Hasher.new sha1).update sha1 (ByteArray.join chunks) ∧
          t.state.2.length = hasher.length ∧
          Takes cursor.limits content cursor.position chunks t.state.2)
        (fun e t => t.state.2.Works cursor.limits content cursor.position ∨
          ∃ chunks, Broken e r chunks t.state.1 ∧
            Takes cursor.limits content cursor.position chunks t.state.2) := by
    intro s cursor content log hb
    refine (absorb_onto r s cursor log).mono ?_ ?_
    · rintro hasher t ⟨chunks, hdrained, hh, hstate, -⟩
      have htakes := takes_writeAll s hb hdrained.nonempty
      exact ⟨chunks, hdrained, hh, by rw [hstate], by rw [hstate]; exact htakes⟩
    · rintro e t ⟨chunks, hbroken, hstate⟩
      exact .inr ⟨chunks, hbroken, hstate ▸ takes_writeAll s hb hbroken.nonempty⟩
  cases h with
  | unmade h hl =>
    cases hc : create ⟨s, log⟩ with
    | error e t =>
      refine ends_error (absorb_of_error r h hc) (.inl ?_)
      rcases ends_of_error (create_ends s log) hc with ht | ⟨made, _, hm, -, -, ht⟩
      · exact ht ▸ .unmade h hl
      · exact ht ▸ .unmade h ((limits_createTemp hm).trans hl)
    | ok u t =>
      obtain ⟨made, hm, -, hmade, -⟩ := ends_of_ok (create_ends s log) hc
      obtain ⟨_, log'⟩ := t
      dsimp only at hmade
      subst hmade
      rw [Ends, absorb_of_create r h hc, ← Ends, ← hl, ← limits_createTemp hm]
      exact into log' (Sparse.is_solid .empty)
  | made h hl hb =>
    rw [← onto_of_handle h, ← hl]
    exact into log hb

theorem Takes.works {chunks : List ByteArray} {t : Spill} (h : Takes limits content p chunks t) :
    t.Works limits (content.splice p (ByteArray.join chunks))
      (p + (ByteArray.join chunks).size) := by
  obtain ⟨cursor, hhandle, hl, his, hpos⟩ := h
  exact hpos ▸ .made hhandle hl his

/-! ### One thing after another -/

/-- What can be done with an open spill. -/
inductive Move (ρ : Type) where
  | absorb (r : ρ)
  | seek (n : Int)
  | rewind
  | read (ask : Option Int)

/-- What a step leaves, however it ends. -/
def final (a : Step Spill β) (s : Logged Spill) : Logged Spill :=
  match a s.state with
  | .ok _ t | .error _ t => ⟨t, s.log⟩

/-- What is left once it was done, whether or not it failed. -/
def Move.after (move : Move ρ) (s : Logged Spill) : Logged Spill :=
  match move with
  | .absorb r =>
    match Spill.absorb ⟨(r, s.state), s.log⟩ with
    | .ok _ t | .error _ t => ⟨t.state.2, t.log⟩
  | .seek n => final (Spill.seek n) s
  | .rewind => final Spill.rewind s
  | .read ask => final (Spill.read ask) s

theorem Works.final {a : Step Spill β} (ha : Carries Retains a) {s : Logged Spill}
    (h : s.state.Works limits content p) : ∃ q, (Spill.final a s).state.Works limits content q := by
  unfold Spill.final
  cases hx : a s.state with
  | ok b t => exact ends_of_ok (ha s.state) hx limits content p h
  | error e t => exact ends_of_error (ha s.state) hx limits content p h

/-- Whatever is done, the file still works. -/
theorem Works.after {s : Logged Spill} (h : s.state.Works limits content p) (move : Move ρ) :
    ∃ content' q, (move.after s).state.Works limits content' q := by
  cases move with
  | absorb r =>
    have habsorb := h.absorb r s.log
    unfold Move.after
    dsimp only
    cases hx : Spill.absorb ⟨(r, s.state), s.log⟩ with
    | ok hasher t =>
      obtain ⟨chunks, -, -, -, htakes⟩ := ends_of_ok habsorb hx
      exact ⟨_, _, htakes.works⟩
    | error e t =>
      rcases ends_of_error habsorb hx with hworks | ⟨chunks, -, htakes⟩
      · exact ⟨_, _, hworks⟩
      · exact ⟨_, _, htakes.works⟩
  | seek n => exact ⟨content, h.final (carries_seek_retains n)⟩
  | rewind => exact ⟨content, h.final carries_rewind_retains⟩
  | read ask => exact ⟨content, h.final (carries_read_retains ask)⟩

/-- **Whatever was done with a spill, its file works.** -/
theorem works_after (moves : List (Move ρ)) {s : Logged Spill}
    (h : s.state.Works limits content p) :
    ∃ content' q, (moves.foldl (fun s move => move.after s) s).state.Works limits content' q := by
  induction moves generalizing s content p with
  | nil => exact ⟨content, p, h⟩
  | cons move moves ih =>
    obtain ⟨_, _, hnext⟩ := h.after move
    exact ih hnext

/-! ### Reading back -/

/-- From its start the spill reads as the content, in pieces or all at once, as far as memory has
room. -/
def ReadsBack (s : Spill) (limits : FileLimits) (content : ByteArray) : Prop :=
  ∃ t, rewind s = .ok () t ∧ Delivers limits.largest t content ∧
    (content.size < limits.memory → ∀ ask, ask = none ∨ ask = some (-1) →
      ∃ t', Spill.read ask t = .ok content t')

theorem rewind_of_stores (h : s.Stores limits content) :
    ∃ t, rewind s = .ok () t ∧ t.Stands limits content content := by
  obtain ⟨_, t, hrewind, ht⟩ := ok_of_ends (rewind_ends h fun _ _ => False)
  exact ⟨t, hrewind, ht⟩

/-- A read of all the rest gives what stands. -/
theorem Stands.read_all {rest : ByteArray} (h : s.Stands limits content rest)
    (hl : rest.size < limits.memory) {ask : Option Int} (ha : ask = none ∨ ask = some (-1)) :
    ∃ t, Spill.read ask s = .ok rest t := by
  obtain ⟨cursor, hhandle, rfl, hb, rfl⟩ := h
  have hleft : cursor.left = (content.since cursor.position).size := by
    rw [ByteArray.size_since, FileCursor.left, hb.1]
  have hwindow : cursor.bytes.window cursor.position cursor.left =
      content.since cursor.position := by
    rw [hb.2, hleft,
      ← ByteArray.window_of_size_le (b := content.since cursor.position) (Nat.le_refl _),
      ByteArray.window_since, Nat.add_zero, ByteArray.size_window]
    congr 1
    rw [ByteArray.size_since]
    omega
  have hread := FileCursor.read_all ha (hleft ▸ hl)
  rw [hwindow] at hread
  exact ⟨_, by rw [Spill.read, onFile_eq hhandle, hread]⟩

/-- A file that works reads as what it stores, and as nothing else. -/
theorem Stores.readsBack_iff (h : s.Stores limits content) (given : ByteArray) :
    s.ReadsBack limits given ↔ given = content := by
  obtain ⟨t, hrewind, hstands⟩ := rewind_of_stores h
  constructor
  · rintro ⟨t', hrewind', hd, -⟩
    cases hrewind.symm.trans hrewind'
    exact hd.unique limits.largest_pos (delivers_of_stands hstands)
  · rintro rfl
    exact ⟨t, hrewind, delivers_of_stands hstands, fun hl _ ha => hstands.read_all hl ha⟩

theorem Takes.stores {chunks : List ByteArray} {t : Spill} (h : Takes limits content p chunks t) :
    t.Stores limits (content.splice p (ByteArray.join chunks)) := by
  obtain ⟨cursor, hhandle, hl, his, -⟩ := h
  exact ⟨cursor, hhandle, hl, his.holds⟩

theorem Drawn.taken {t t' : Tracked ρ} {chunks : List ByteArray} (h : Drawn t chunks t') :
    t'.taken = t.taken ++ ByteArray.join chunks := by
  induction h with
  | nil => exact ByteArray.append_empty.symm
  | cons hr _ _ ih =>
    rw [ih, Tracked.taken_read hr, Option.getD_some, ByteArray.join_cons, ByteArray.append_assoc]

/-- The chunks of a stream that was read to its end are all that was taken from it. -/
theorem Drained.taken {r : ρ} {t : Tracked ρ} {chunks : List ByteArray}
    (h : Drained (Tracked.ofStream r) chunks t) : ByteArray.join chunks = t.taken := by
  cases h with
  | mk h hr ho =>
    rw [Tracked.taken_read hr, h.taken, ByteArray.size_eq_zero_iff.mp ho, ByteArray.append_empty]
    exact ByteArray.empty_append.symm

/-- What an absorption returns and leaves to be read. -/
theorem Works.absorb_ends (h : s.Works limits content p) (r : ρ) (log : Array Log.Line) :
    Ends Spill.absorb ⟨(Tracked.ofStream r, s), log⟩
      (fun hasher t => hasher.hex sha1 = sha1.hex t.state.1.taken ∧
        hasher.length = t.state.1.taken.size ∧ t.state.2.length = t.state.1.taken.size ∧
        ∀ given, t.state.2.ReadsBack limits given ↔ given = content.splice p t.state.1.taken)
      (fun _ _ => True) := by
  refine (h.absorb _ log).mono ?_ fun _ _ _ => trivial
  rintro hasher t ⟨chunks, hdrained, rfl, hlength, htakes⟩
  have hcount := Hasher.length_update_new sha1 (ByteArray.join chunks)
  rw [← hdrained.taken]
  exact ⟨Hasher.hex_update_new sha1 _, hcount, hlength.trans hcount, htakes.stores.readsBack_iff⟩

/-- **What an absorption leaves.**  After anything was done with a spill, absorptions that failed
among it, an absorption that succeeds gives the hash and the length of what its stream gave, and the
spill tells that length.  What reads back is the file as it was with that written over it from the
position on: just what was absorbed exactly where the file was no longer than that and stood at its
start, or nothing was absorbed into an empty one. -/
theorem absorb_reads_back (disk : Disk) (folder : Option String) (log : Array Log.Line)
    (moves : List (Move ρ)) {s : Logged Spill}
    (hs : moves.foldl (fun s move => move.after s) ⟨.new disk folder, log⟩ = s) (r : ρ)
    {hasher : Hasher Sha1.State} {t : Logged (Tracked ρ × Spill)}
    (h : Spill.absorb ⟨(Tracked.ofStream r, s.state), s.log⟩ = .ok hasher t) :
    hasher.hex sha1 = sha1.hex t.state.1.taken ∧ hasher.length = t.state.1.taken.size ∧
      t.state.2.length = t.state.1.taken.size ∧
      t.state.2.ReadsBack disk.limits (s.state.stored.splice s.state.position t.state.1.taken) ∧
      (t.state.2.ReadsBack disk.limits t.state.1.taken ↔
        s.state.stored.size ≤ t.state.1.taken.size ∧
          (s.state.position = 0 ∨ t.state.1.taken.size = 0)) := by
  have hnew : Works disk.limits (new disk folder) .empty 0 := .unmade rfl rfl
  obtain ⟨content, p, hworks⟩ := works_after moves (s := ⟨.new disk folder, log⟩) hnew
  rw [hs] at hworks
  obtain ⟨hhex, hlength, hspill, hreads⟩ := ends_of_ok (hworks.absorb_ends r s.log) h
  obtain ⟨rfl, rfl⟩ := hworks.eq
  refine ⟨hhex, hlength, hspill, (hreads _).mpr rfl, ?_⟩
  rw [hreads, eq_comm, ByteArray.splice_eq_iff]

/-! ### A second try -/

section Again

open Rehearsal

/-- Two bytes, one at each read; the second read fails. -/
def halting : Stream := { Stream.ofBytes ⟨#[1, 2]⟩ with caps := [1], failing := some 2 }

/-- After an absorption that failed and a step back to the start, the next one is stored as it was
taken. -/
theorem absorb_reads_back_rewound :
    let s : Logged Spill := [Move.absorb halting, .rewind].foldl (fun s move => move.after s)
      ⟨.new roomy none, #[]⟩
    ∃ hasher t, Spill.absorb ⟨(Tracked.ofStream (Stream.ofBytes ⟨#[1, 2]⟩), s.state), s.log⟩ =
      .ok hasher t ∧ t.state.1.taken.size = 2 ∧
        t.state.2.ReadsBack roomy.limits t.state.1.taken := by
  intro s
  have hsize : s.state.stored.size = 1 ∧ s.state.position = 0 := by decide +kernel
  have hrun : (match Spill.absorb
      ⟨(Tracked.ofStream (Stream.ofBytes ⟨#[1, 2]⟩), s.state), s.log⟩ with
      | .ok _ t => some t.state.1.taken.size
      | .error _ _ => none) = some 2 := by decide +kernel
  cases hx : Spill.absorb ⟨(Tracked.ofStream (Stream.ofBytes ⟨#[1, 2]⟩), s.state), s.log⟩ with
  | error e t =>
    rw [hx] at hrun
    cases hrun
  | ok hasher t =>
    rw [hx] at hrun
    have htaken := Option.some.inj hrun
    obtain ⟨-, -, -, -, hiff⟩ :=
      absorb_reads_back roomy none #[] [.absorb halting, .rewind] rfl _ hx
    refine ⟨hasher, t, rfl, htaken, hiff.mpr ⟨?_, .inl hsize.2⟩⟩
    rw [hsize.1, htaken]
    decide

/-- Without that step the bytes of the failed absorption are still there, before those that were
hashed. -/
theorem absorb_leaves_behind :
    let s : Logged Spill := [Move.absorb halting].foldl (fun s move => move.after s)
      ⟨.new roomy none, #[]⟩
    ∃ hasher t, Spill.absorb ⟨(Tracked.ofStream (Stream.ofBytes ⟨#[1, 2]⟩), s.state), s.log⟩ =
      .ok hasher t ∧ ¬t.state.2.ReadsBack roomy.limits t.state.1.taken := by
  intro s
  have hnew : Works roomy.limits (new roomy none) .empty 0 := .unmade rfl rfl
  obtain ⟨content, p, hworks⟩ :=
    works_after [Move.absorb halting] (s := ⟨.new roomy none, #[]⟩) hnew
  have hsize : s.state.stored.size = 1 ∧ s.state.position = 1 := by decide +kernel
  have hrun : (match Spill.absorb
      ⟨(Tracked.ofStream (Stream.ofBytes ⟨#[1, 2]⟩), s.state), s.log⟩ with
      | .ok _ t => some t.state.1.taken.size
      | .error _ _ => none) = some 2 := by decide +kernel
  cases hx : Spill.absorb ⟨(Tracked.ofStream (Stream.ofBytes ⟨#[1, 2]⟩), s.state), s.log⟩ with
  | error e t =>
    rw [hx] at hrun
    cases hrun
  | ok hasher t =>
    rw [hx] at hrun
    have htaken := Option.some.inj hrun
    obtain ⟨-, -, -, hreads⟩ := ends_of_ok (hworks.absorb_ends _ s.log) hx
    refine ⟨hasher, t, rfl, fun hback => ?_⟩
    have hsplice := ((hreads _).mp hback).symm
    rw [ByteArray.splice_eq_iff, hworks.eq.2] at hsplice
    obtain ⟨-, hzero | hzero⟩ := hsplice
    · exact absurd (hsize.2.symm.trans hzero) (by decide)
    · exact absurd (htaken.symm.trans hzero) (by decide)

end Again

end Spill

end RapidUpload
