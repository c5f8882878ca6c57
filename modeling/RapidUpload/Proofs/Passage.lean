import RapidUpload.Proofs.Independence
import RapidUpload.Proofs.Tracked

/-!
# The passage of a transfer

A transfer takes the parts in the order of their numbers, however they are listed, and goes up to
the first that fails.  With its calls and the bytes it takes off the stream that is all it does, so
one relation says what every transfer comes to.

* `Arranges parts entries`: the order in which parts are taken.
* `Transfer.watch`: what a transfer ends in, its calls, and the bytes it took.
* `Transfer.Passes`: the ways a transfer of some entries can go.
* `Transfer.watch_passes`: those are the only ones, for any stream, service and callback.
-/

namespace RapidUpload

open Step

variable {ρ α : Type} {limit : Nat} {content : ByteArray} {size : PartSize} {count : Int}
  {parts : List Part}

/-! ### The order of the parts -/

/-- The entries are the parts in the order of their numbers, and parts of one number keep the order
they are listed in. -/
structure Arranges (parts entries : List Part) : Prop where
  perm : entries.Perm parts
  sorted : (entries.map Part.number).Pairwise (· ≤ ·)
  stable : ∀ n, entries.filter (fun part => part.number = n) =
    parts.filter (fun part => part.number = n)

namespace Transfer

theorem arranges_ordered (parts : List Part) : Arranges parts (ordered parts) where
  perm := ordered_perm parts
  sorted := ordered_sorted parts
  stable n := by
    -- the parts of one number are sorted as they are listed, so sorting keeps them in this order
    have hsorted : (parts.filter fun part => part.number = n).Pairwise
        fun a b => a.number ≤ b.number := by
      refine List.pairwise_of_forall_mem_list fun a ha b hb => ?_
      simp only [List.mem_filter, decide_eq_true_eq] at ha hb
      exact Int.le_of_eq (ha.2.trans hb.2.symm)
    have hsub : (parts.filter fun part => part.number = n).Sublist (ordered parts) := by
      rw [ordered_eq]
      exact List.sublist_insertionSort hsorted List.filter_sublist
    have hfilter := hsub.filter fun part => part.number = n
    rw [List.filter_filter] at hfilter
    simp only [Bool.and_self] at hfilter
    exact (hfilter.eq_of_length ((ordered_perm parts).filter _).length_eq.symm).symm

/-! ### What a transfer comes to -/

/-- The percentage after `index` parts of a positive count. -/
def share (index : Nat) (count : Int) : Int := min 100 (Int.fdiv (index * 100) count)

theorem tells_eq (h : 0 < count) (tell : Progress α) (n : Nat) :
    tells (some tell) count n = some (share n count) := if_neg (Int.not_le.mpr h)

/-- The rounds of entries that were all sent and told of. -/
def rounds (size : PartSize) (content : ByteArray) (count : Int) (sent : List Part) : List Round :=
  sent.mapIdx fun i part =>
    ⟨part.url, size.slice content i, .ok (), some (share (i + 1) count, .ok ())⟩

theorem rounds_concat (size : PartSize) (content : ByteArray) (count : Int) (sent : List Part)
    (part : Part) : rounds size content count (sent ++ [part]) = rounds size content count sent ++
      [⟨part.url, size.slice content sent.length, .ok (),
        some (share (sent.length + 1) count, .ok ())⟩] := List.mapIdx_concat

/-- What a transfer ends in, its calls, and the bytes it took off the stream. -/
structure Passage where
  result : Except Fault Nat
  events : List Event
  taken : ByteArray

/-- The number of each entry has a text. -/
def Numbered (entries : List Part) : Prop := ∀ part ∈ entries, Integer.Short part.number

/-- The ways a transfer of some entries can go: each gets its slice and is told of, until there are
no more, or the slice of one is not sent, or the callback does not take its percentage.  The first
entry whose number has no text takes its slice off the stream, and is not sent. -/
inductive Passes (size : PartSize) (content : ByteArray) (count : Int) (entries : List Part) :
    Passage → Prop where
  | all (hn : Numbered entries) : Passes size content count entries
      ⟨.ok entries.length, (rounds size content count entries).flatMap Round.events,
        content.window 0 (entries.length * size.bytes)⟩
  | unsent {sent rest : List Part} {part : Part} (h : entries = sent ++ part :: rest)
    (hn : Numbered (sent ++ [part])) (e : Fault) : Passes size content count entries
      ⟨.error e, (rounds size content count sent).flatMap Round.events ++
          [.put part.url (size.slice content sent.length) (.error e)],
        content.window 0 ((sent.length + 1) * size.bytes)⟩
  | untold {sent rest : List Part} {part : Part} (h : entries = sent ++ part :: rest)
    (hn : Numbered (sent ++ [part])) (e : Fault) : Passes size content count entries
      ⟨.error e, (rounds size content count sent).flatMap Round.events ++
          [.put part.url (size.slice content sent.length) (.ok ()),
            .told (share (sent.length + 1) count) (.error e)],
        content.window 0 ((sent.length + 1) * size.bytes)⟩
  | unnumbered {sent rest : List Part} {part : Part} (h : entries = sent ++ part :: rest)
    (hn : Numbered sent) (hlong : ¬Integer.Short part.number) : Passes size content count entries
      ⟨.error (.undefined .longInteger), (rounds size content count sent).flatMap Round.events,
        content.window 0 ((sent.length + 1) * size.bytes)⟩

/-- A stream and a service of which nothing was asked yet. -/
def untouched (r : ρ) (s : Logged α) : Logged (Tracked ρ × Watched α) :=
  ⟨(.ofStream r, ⟨s.state, []⟩), s.log⟩

variable [Reader ρ] [DriveService α]

/-- A transfer from a stream whose reads are kept, with the calls that it makes. -/
def watch (size : PartSize) (parts : List Part) (count : Int) (progress : Option (Progress α))
    (r : ρ) (s : Logged α) : Passage :=
  match run size parts count (progress.map Watched.progress) (untouched r s) with
  | .ok n t => ⟨.ok n, t.state.2.events, t.state.1.taken⟩
  | .error e t => ⟨.error e, t.state.2.events, t.state.1.taken⟩

/-- Keeping its reads and its calls changes nothing about a transfer. -/
theorem watch_run (size : PartSize) (parts : List Part) (count : Int)
    (progress : Option (Progress α)) (r : ρ) (s : Logged α) :
    Ends (run size parts count progress) ⟨(r, s.state), s.log⟩
      (fun n _ => (watch size parts count progress r s).result = .ok n)
      (fun e _ => (watch size parts count progress r s).result = .error e) := by
  have hrun : InStep Eq (Told (Both (fun (t : Tracked ρ) (r : ρ) => t.stream = r) Watched.Watches))
      (run size parts count (progress.map Watched.progress)) (run size parts count progress) :=
    inStep_run (Tracked.inStep_readUpTo _) (Watched.services_watches.peers .widest)
      (Watched.tellers_watches progress) parts count
  have halike := hrun (untouched r s) ⟨(r, s.state), s.log⟩ (.mk ⟨rfl, rfl⟩ s.log)
  unfold watch
  generalize run size parts count (progress.map Watched.progress) (untouched r s) = x at halike ⊢
  refine (ends_run _ _).mono ?_ ?_
  · intro n t hn
    rw [hn] at halike
    cases halike with
    | ok h => exact congrArg Except.ok h.1
  · intro e t he
    rw [he] at halike
    cases halike with
    | error e h => rfl

/-! ### The run -/

/-- The slices of a content, up to the size of a part, have a text to be told of. -/
def Tellable (size : PartSize) (content : ByteArray) : Prop :=
  ∀ n ≤ size.bytes, n ≤ content.size → ∀ e, Size.kilobytes 1 n ≠ .error e

/-- After some entries the stream goes on with the content from the next slice on. -/
theorem readUpTo_slice {R : ρ → ByteArray → Prop} (hR : Keeps limit R) (hl : size.bytes ≤ limit)
    {i : Nat} {t : Tracked ρ} (h : Tracked.Along R content t (content.since (i * size.bytes))) :
    Ends (Reader.readUpTo size.bytes) t
      (fun bytes t' => bytes = size.slice content i ∧
        Tracked.Along R content t' (content.since ((i + 1) * size.bytes)))
      (fun _ _ => False) := by
  have htracked : Keeps limit (Tracked.Along R content) := hR.tracked content
  refine (htracked.readUpTo_ends h).mono ?_ fun _ _ h => absurd hl (Nat.not_le.mpr h)
  rintro bytes t' ⟨rfl, h'⟩
  rw [ByteArray.since_since, ← Nat.succ_mul] at h'
  exact ⟨by rw [size.slice_eq_window, ByteArray.window_since, Nat.add_zero], h'⟩

/-- The entries that are left pass as entries do, after those that were sent. -/
theorem sendAll_passes {R : ρ → ByteArray → Prop} (hR : Keeps limit R) (hl : size.bytes ≤ limit)
    (hc : 0 < count) (ht : Tellable size content) (tell : Progress α) :
    ∀ (rest sent : List Part) (s : Logged (Tracked ρ × Watched α)),
      Numbered sent → Tracked.Along R content s.state.1 (content.since (sent.length * size.bytes)) →
      s.state.2.events = (rounds size content count sent).flatMap Round.events →
      Ends (sendAll size count (some (Watched.progress tell)) rest sent.length) s
        (fun n t => Passes size content count (sent ++ rest)
          ⟨.ok n, t.state.2.events, t.state.1.taken⟩)
        (fun e t => Passes size content count (sent ++ rest)
          ⟨.error e, t.state.2.events, t.state.1.taken⟩)
  | [], sent, s, hsent, hstream, hevents => by
    refine ends_pure.mpr ?_
    rw [hevents, hstream.taken_eq, List.append_nil]
    exact .all hsent
  | part :: rest, sent, ⟨⟨_, before⟩, _⟩, hsent, hstream, hevents => by
    unfold sendAll
    rw [ends_bind, ends_part, ends_quiet]
    refine (readUpTo_slice hR hl hstream).mono ?_ fun _ _ h => h.elim
    rintro _ r ⟨rfl, hr⟩
    have htaken : r.taken = content.window 0 ((sent.length + 1) * size.bytes) := hr.taken_eq
    have hnumbered : Integer.Short part.number → Numbered (sent ++ [part]) := fun h =>
      List.forall_mem_append.mpr ⟨hsent, List.forall_mem_singleton.mpr h⟩
    rw [ends_bind]
    refine (send_ends part _ _).mono ?_ ?_
    · rintro _ ⟨⟨r', w⟩, _⟩ ⟨hshort, hstay, hput⟩
      obtain rfl : r = r' := hstay.symm
      have hw : w.events = (rounds size content count sent).flatMap Round.events ++
          [.put part.url (size.slice content sent.length) (.ok ())] :=
        hput.trans (congrArg (· ++ _) hevents)
      rw [ends_bind]
      refine (report_ends (some tell) (sent.length + 1) count _).mono ?_ ?_
      · rintro _ ⟨⟨r', w'⟩, log⟩ ⟨hstay, htold⟩
        obtain rfl : r = r' := hstay.symm
        -- on to the next entry, with this one among those that were sent
        have hnext := sendAll_passes hR hl hc ht tell rest (sent ++ [part]) ⟨(r, w'), log⟩
        simp only [List.length_append, List.length_singleton, List.append_assoc,
          List.singleton_append, rounds_concat] at hnext
        refine hnext (hnumbered hshort) hr (htold.trans ?_)
        rw [tells_eq hc]
        simp [hw, Round.events]
      · rintro e ⟨⟨r', w'⟩, _⟩ ⟨hstay, p, hp, htold⟩
        obtain rfl : r = r' := hstay.symm
        rw [tells_eq hc] at hp
        obtain rfl : share (sent.length + 1) count = p := Option.some.inj hp
        have hw' : w'.events = w.events ++ [.told (share (sent.length + 1) count) (.error e)] :=
          htold
        show Passes size content count _ ⟨.error e, w'.events, r.taken⟩
        rw [hw', hw, htaken, List.append_assoc]
        exact .untold rfl (hnumbered hshort) e
    · rintro e ⟨⟨r', w⟩, _⟩ (⟨he, -⟩ | ⟨he, hstay⟩ | ⟨hshort, hstay, hput⟩)
      · rw [size.size_slice] at he
        exact absurd he (ht _ (Nat.min_le_left _ _) (by omega) e)
      · obtain ⟨hn, rfl⟩ := Integer.text_error he
        cases hstay
        show Passes size content count _ ⟨.error (.undefined .longInteger), before.events, r.taken⟩
        rw [hevents, htaken]
        exact .unnumbered rfl hsent hn
      · obtain rfl : r = r' := hstay.symm
        have hw : w.events = (rounds size content count sent).flatMap Round.events ++
            [.put part.url (size.slice content sent.length) (.error e)] :=
          hput.trans (congrArg (· ++ _) hevents)
        show Passes size content count _ ⟨.error e, w.events, r.taken⟩
        rw [hw, htaken]
        exact .unsent rfl (hnumbered hshort) e

/-- What holds of every way a transfer can end holds of what was seen of it. -/
theorem watch_of_ends {P : Passage → Prop} {progress : Option (Progress α)} {r : ρ} {s : Logged α}
    (h : Ends (run size parts count (progress.map Watched.progress)) (untouched r s)
      (fun n t => P ⟨.ok n, t.state.2.events, t.state.1.taken⟩)
      (fun e t => P ⟨.error e, t.state.2.events, t.state.1.taken⟩)) :
    P (watch size parts count progress r s) := by
  unfold watch
  cases hx : run size parts count (progress.map Watched.progress) (untouched r s) with
  | ok n t => exact (ends_of_ok h hx :)
  | error e t => exact (ends_of_error h hx :)

/-- Parts that are together too large to be told of are not transferred at all. -/
theorem watch_of_error {e : Fault} (h : Size.megabytes 1 (parts.length * size.bytes) = .error e)
    (progress : Option (Progress α)) (r : ρ) (s : Logged α) :
    watch size parts count progress r s = ⟨.error e, [], .empty⟩ := by
  refine watch_of_ends (P := (· = ⟨.error e, [], .empty⟩)) ?_
  unfold run
  rw [ends_bind, ends_ofExcept, length_ordered, h]
  exact ⟨fun _ h => (nomatch h), fun _ h => by cases h; rfl⟩

/-- **How a transfer passes.**  Whatever numbers the parts have and in whatever order they are
listed, the entries of the ordered list get the slices of the content, one each and in turn, and
after each the callback is told.  The first failure, of a call or of the callback, is that of the
whole; the slices up to there were taken off the stream, and no byte more.  A number that has no
text ends it, too, once the slice of its entry was taken.  This is so exactly where the parts
together are small enough to be told of; else nothing is read or sent. -/
theorem watch_passes {r : ρ} (hd : Delivers limit r content) (hl : size.bytes ≤ limit)
    (hc : 0 < count) (ht : Tellable size content) (parts : List Part) (tell : Progress α)
    (s : Logged α) :
    Arranges parts (ordered parts) ∧
      ((∀ e, Size.megabytes 1 (parts.length * size.bytes) ≠ .error e) →
        Passes size content count (ordered parts) (watch size parts count (some tell) r s)) ∧
      ∀ e, Size.megabytes 1 (parts.length * size.bytes) = .error e →
        watch size parts count (some tell) r s = ⟨.error e, [], .empty⟩ := by
  refine ⟨arranges_ordered parts, fun hm => watch_of_ends ?_, fun e he => watch_of_error he _ r s⟩
  obtain ⟨R, hR, hr⟩ := hd
  have hstart : Tracked.Along R content (Tracked.ofStream r) (content.since (0 * size.bytes)) := by
    rw [Nat.zero_mul, ByteArray.since_zero]
    exact Tracked.along_ofStream hr
  unfold run
  rw [ends_bind, ends_ofExcept, length_ordered]
  refine ⟨fun total _ => ?_, fun e he => absurd he (hm e)⟩
  rw [ends_bind, ends_tell]
  exact sendAll_passes hR hl hc ht tell (ordered parts) [] _ (List.forall_mem_nil _) hstart rfl

open Rehearsal

/-- Two bytes in two parts, listed the other way round. -/
theorem watch_passes_pair :
    let parts : List Part := [⟨2, "second"⟩, ⟨1, "first"⟩]
    let server : Logged Script := ⟨(listing []).state.service, #[]⟩
    Arranges parts (ordered parts) ∧ Passes ⟨1, by decide⟩ pair.bytes 2 (ordered parts)
      (watch ⟨1, by decide⟩ parts 2 (some fun _ => pure ()) pair server) := by
  intro parts server
  have hd : Delivers 1 pair pair.bytes :=
    Stream.delivers_bytes (s := pair) ⟨rfl, rfl, by decide⟩ rfl 1
  have ht : Tellable ⟨1, by decide⟩ pair.bytes := fun n hn _ =>
    Size.inUnit_ok (k := 1) (by decide) (Nat.lt_of_le_of_lt hn (by decide)) (by decide)
  obtain ⟨harranges, hpass, -⟩ := watch_passes hd (Nat.le_refl 1) (by decide : (0 : Int) < 2) ht
    parts (fun _ => pure ()) server
  exact ⟨harranges, hpass (Size.inUnit_ok (k := 2) (by decide) (by decide) (by decide))⟩

/-- A part of a size that has no text is not sent, though nothing failed. -/
theorem watch_untellable :
    let size : PartSize := ⟨pow2 1100, by decide +kernel⟩
    let parts : List Part := [⟨1, ""⟩]
    let server : Logged Script := ⟨(listing []).state.service, #[]⟩
    ∃ e, watch size parts 1 (some fun _ => pure ()) pair server = ⟨.error e, [], .empty⟩ ∧
      ¬Passes size pair.bytes 1 (ordered parts)
        (watch size parts 1 (some fun _ => pure ()) pair server) := by
  intro size parts server
  have hnone : (Size.megabytes 1 (parts.length * size.bytes)).toOption = none := by
    decide +kernel
  cases hm : Size.megabytes 1 (parts.length * size.bytes) with
  | ok total =>
    rw [hm] at hnone
    cases hnone
  | error e =>
    have hwatch : watch size parts 1 (some fun _ => pure ()) pair server =
        ⟨.error e, [], .empty⟩ := watch_of_error hm _ _ _
    refine ⟨e, hwatch, fun h => ?_⟩
    rw [hwatch] at h
    -- a failure shows in a call
    generalize hx : (⟨.error e, [], .empty⟩ : Passage) = x at h
    cases h with
    | all => cases congrArg Passage.result hx
    | unsent | untold => simp at hx
    | @unnumbered sent rest part hentries _ hlong =>
      have hpart : part ∈ ordered parts := hentries ▸ List.mem_append_right _ List.mem_cons_self
      obtain rfl := List.mem_singleton.mp hpart
      exact hlong (by decide)

end Transfer

end RapidUpload
