import RapidUpload.Proofs.Passage

/-!
# What a callback is told

After each slice that was sent, and before the next one, the callback is told a percentage.  The
percentages are those after one part, two parts and so on, of the number that was asked for, so
how far they go shows in how many slices were sent.

* `Transfer.share_mono`, `Transfer.share_eq_iff`: percentages never fall, and reach a hundred with
  the last part that was asked for.
* `Paced`: the calls of an upload with the percentages in their places.
* `Progresses`: what the percentages among some calls come to.
* `Coordinator.watch_progresses`: that is so in every transfer and in every upload.
-/

namespace RapidUpload

open Step

/-! ### Percentages -/

namespace Transfer

theorem share_natCast (index count : Nat) :
    share index count = (min 100 (index * 100 / count) : Nat) := by
  have hdiv : (index * 100 : Int) / count = (index * 100 / count : Nat) := by
    rw [Int.natCast_ediv, Int.natCast_mul]
    rfl
  rw [share, Int.fdiv_eq_ediv_of_nonneg _ (Int.natCast_nonneg count), hdiv]
  omega

theorem share_bounds (index count : Nat) : 0 ≤ share index count ∧ share index count ≤ 100 := by
  rw [share_natCast]
  generalize index * 100 / count = part
  omega

/-- More parts are never a smaller percentage. -/
theorem share_mono {i j : Nat} (h : i ≤ j) (count : Nat) : share i count ≤ share j count := by
  have hdiv : i * 100 / count ≤ j * 100 / count := Nat.div_le_div_right (Nat.mul_le_mul_right _ h)
  rw [share_natCast, share_natCast]
  omega

/-- A hundred is told after as many parts as were asked for, and not before. -/
theorem share_eq_iff {count : Nat} (h : 0 < count) (index : Nat) :
    share index count = 100 ↔ count ≤ index := by
  have hdiv : 100 ≤ index * 100 / count ↔ count ≤ index := by
    rw [Nat.le_div_iff_mul_le h, Nat.mul_comm]
    exact Nat.mul_le_mul_right_iff (by decide)
  rw [share_natCast, ← hdiv]
  omega

theorem share_lt {index count : Nat} (h : index < count) : share index count < 100 := by
  have hne : share index count ≠ 100 := fun heq =>
    absurd ((share_eq_iff (Nat.zero_lt_of_lt h) index).mp heq) (Nat.not_le.mpr h)
  exact Int.lt_iff_le_and_ne.mpr ⟨(share_bounds index count).2, hne⟩

/-- The percentage after each number of parts, where there is one. -/
def percents (count index : Nat) : Option Int := percent index count

theorem percents_zero (index : Nat) : percents 0 index = none := rfl

theorem percents_of_pos {count : Nat} (h : 0 < count) (index : Nat) :
    percents count index = some (share index count) := if_neg (by omega)

end Transfer

/-! ### Calls with their percentages -/

namespace Event

/-- The percentages that were told among some calls, in turn. -/
def percentages (events : List Event) : List Int :=
  events.filterMap fun
    | .told percent _ => some percent
    | _ => none

/-- How many slices were sent among some calls. -/
def sent (events : List Event) : Nat :=
  events.countP fun
    | .put _ _ (.ok ()) => true
    | _ => false

end Event

/-- The calls after `n` slices were sent: each slice that is sent is followed by the percentage
after it, where there is one to tell, and by nothing else before that; a failure is the last
call. -/
inductive Paced (tells : Nat → Option Int) : Nat → List Event → Prop where
  | nil (n : Nat) : Paced tells n []
  | create {n : Nat} {events : List Event} (body : Json) (result : Except Fault Json)
    (h : Paced tells n events) : Paced tells n (.create body result :: events)
  | complete {n : Nat} {events : List Event} (driveId fileId uploadId : Json)
    (result : Except Fault Json) (h : Paced tells n events) :
    Paced tells n (.complete driveId fileId uploadId result :: events)
  | unsent (n : Nat) (url : Json) (bytes : ByteArray) (e : Fault) :
    Paced tells n [.put url bytes (.error e)]
  | untold {n : Nat} {p : Int} (url : Json) (bytes : ByteArray) (e : Fault)
    (hp : tells (n + 1) = some p) :
    Paced tells n [.put url bytes (.ok ()), .told p (.error e)]
  | told {n : Nat} {p : Int} {events : List Event} (url : Json) (bytes : ByteArray)
    (hp : tells (n + 1) = some p) (h : Paced tells (n + 1) events) :
    Paced tells n (.put url bytes (.ok ()) :: .told p (.ok ()) :: events)
  | silent {n : Nat} {events : List Event} (url : Json) (bytes : ByteArray)
    (hp : tells (n + 1) = none) (h : Paced tells (n + 1) events) :
    Paced tells n (.put url bytes (.ok ()) :: events)

namespace Paced

variable {tells : Nat → Option Int} {n : Nat} {events : List Event}

/-- Requests may come before. -/
theorem creates (h : Paced tells n events) (creates : List Create) :
    Paced tells n (creates.map Create.event ++ events) := by
  induction creates with
  | nil => exact h
  | cons x creates ih => exact .create _ _ ih

/-- The percentages that are told are those there are after each slice that was sent. -/
theorem percentages_eq (h : Paced tells n events) :
    Event.percentages events = (List.range' (n + 1) (Event.sent events)).filterMap tells := by
  induction h with
  | nil => rfl
  | create _ _ _ ih => exact ih
  | complete _ _ _ _ _ ih => exact ih
  | unsent => rfl
  | untold _ _ _ hp => simp [Event.percentages, Event.sent, hp]
  | told _ _ hp _ ih =>
    simp only [Event.percentages, Event.sent] at ih
    simp [Event.percentages, Event.sent, List.range'_succ, hp, ih]
  | silent _ _ hp _ ih =>
    simp only [Event.percentages, Event.sent] at ih
    simp [Event.percentages, Event.sent, List.range'_succ, hp, ih]

end Paced

namespace Course

variable {ρ : Type} [Reader ρ] {size : PartSize} {tells : Nat → Option Int} {parts : List Part}
  {n : Nat} {r : ρ} {rounds : List Round} {x : Except Fault Unit}

/-- A transfer keeps the pace, with other calls only once it has succeeded. -/
theorem paced (h : Course size tells parts n r rounds x) {rest : List Event}
    (hrest : ∀ n, Paced tells n rest) (hx : ∀ e, x = .error e → rest = []) :
    Paced tells n (rounds.flatMap Round.events ++ rest) := by
  induction h with
  | done => exact hrest _
  | unread | unsized | unnumbered =>
    rw [hx _ rfl]
    exact .nil _
  | unsent =>
    rw [hx _ rfl]
    exact .unsent _ _ _ _
  | untold _ ht =>
    rw [hx _ rfl]
    exact .untold _ _ _ ht
  | @next part parts n r r' bytes rounds x hr _ ih =>
    cases ht : tells (n + 1) with
    | none => exact .silent _ _ ht (ih hx)
    | some p => exact .told _ _ ht (ih hx)

/-- No more slices are sent than there are parts, and all of them where nothing fails. -/
theorem sent_le (h : Course size tells parts n r rounds x) :
    Event.sent (rounds.flatMap Round.events) ≤ parts.length ∧
      (x = .ok () → Event.sent (rounds.flatMap Round.events) = parts.length) := by
  induction h with
  | done => exact ⟨Nat.le_refl 0, fun _ => rfl⟩
  | unread | unsized | unnumbered | unsent => exact ⟨Nat.zero_le _, nofun⟩
  | untold => exact ⟨Nat.succ_le_succ (Nat.zero_le _), nofun⟩
  | @next part parts n r r' bytes rounds x hr _ ih =>
    have hsent : Event.sent ((⟨part.url, bytes, .ok (), (tells (n + 1)).map (·, .ok ())⟩ ::
        rounds : List Round).flatMap Round.events) =
        Event.sent (rounds.flatMap Round.events) + 1 := by
      cases tells (n + 1) <;> simp [Event.sent, Round.events]
    rw [hsent, List.length_cons]
    exact ⟨Nat.succ_le_succ ih.1, fun hx => congrArg (· + 1) (ih.2 hx)⟩

end Course

/-! ### What is told -/

/-- What the percentages among some calls come to, where `count` parts were asked for. -/
structure Progresses (count : Nat) (events : List Event) : Prop where
  /-- Each is told after a slice that was sent and before the next one. -/
  paced : Paced (Transfer.percents count) 0 events
  /-- Of no parts there is nothing to tell. -/
  silent : count = 0 → Event.percentages events = []
  length : 0 < count → (Event.percentages events).length = Event.sent events
  range : ∀ p ∈ Event.percentages events, 0 ≤ p ∧ p ≤ 100
  sorted : (Event.percentages events).Pairwise (· ≤ ·)
  /-- The one after part `i + 1` is a hundred from the last part on. -/
  full : ∀ i p, (Event.percentages events)[i]? = some p → (p = 100 ↔ count ≤ i + 1)

namespace Paced

variable {count : Nat} {events : List Event}

theorem percentages_of_zero (h : Paced (Transfer.percents 0) 0 events) :
    Event.percentages events = [] := by
  simp [h.percentages_eq, Transfer.percents_zero]

theorem percentages_of_pos (h : Paced (Transfer.percents count) 0 events)
    (hc : 0 < count) : Event.percentages events =
      (List.range' 1 (Event.sent events)).map (Transfer.share · count) := by
  simp [h.percentages_eq, Transfer.percents_of_pos hc]

/-- **Calls that keep the pace progress**: never back, and to a hundred with the last part. -/
theorem progresses (h : Paced (Transfer.percents count) 0 events) :
    Progresses count events := by
  rcases Nat.eq_zero_or_pos count with rfl | hc
  · have hnone := h.percentages_of_zero
    refine ⟨h, fun _ => hnone, fun hpos => absurd hpos (Nat.lt_irrefl 0), ?_, ?_, ?_⟩
    · simp [hnone]
    · simp [hnone]
    · simp [hnone]
  · have hall := h.percentages_of_pos hc
    refine ⟨h, fun hz => absurd hc (hz ▸ Nat.lt_irrefl 0), fun _ => ?_, ?_, ?_, ?_⟩
    · rw [hall, List.length_map, List.length_range']
    · intro p hp
      rw [hall, List.mem_map] at hp
      obtain ⟨i, -, rfl⟩ := hp
      exact Transfer.share_bounds i count
    · rw [hall, List.pairwise_map]
      exact (List.pairwise_lt_range' 1).imp fun hlt => Transfer.share_mono (Nat.le_of_lt hlt) count
    · intro i p hp
      rw [hall, List.getElem?_map] at hp
      obtain ⟨j, hj, rfl⟩ := Option.map_eq_some_iff.mp hp
      have hi : i < Event.sent events := by
        have := (List.getElem?_eq_some_iff.mp hj).1
        rwa [List.length_range'] at this
      rw [List.getElem?_range' hi] at hj
      rw [← Option.some.inj hj, Transfer.share_eq_iff hc]
      omega

/-- Where fewer slices were sent than parts were asked for, no call tells a hundred. -/
theorem percentages_lt (h : Paced (Transfer.percents count) 0 events)
    (hs : Event.sent events < count) : ∀ p ∈ Event.percentages events, p < 100 := by
  intro p hp
  rw [h.percentages_of_pos (Nat.zero_lt_of_lt hs), List.mem_map] at hp
  obtain ⟨i, hi, rfl⟩ := hp
  have := (List.mem_range'_1.mp hi).2
  exact Transfer.share_lt (by omega)

/-- Where as many were sent, the last call tells a hundred, and no call before it. -/
theorem percentages_last (h : Paced (Transfer.percents count) 0 events) (hc : 0 < count)
    (hs : Event.sent events = count) :
    ∃ before, Event.percentages events = before ++ [100] ∧ ∀ p ∈ before, p < 100 := by
  obtain ⟨k, rfl⟩ := Nat.exists_eq_add_one_of_ne_zero (Nat.ne_of_gt hc)
  refine ⟨(List.range' 1 k).map (Transfer.share · (k + 1 : Nat)), ?_, ?_⟩
  · rw [h.percentages_of_pos hc, hs, List.range'_1_concat, List.map_append, List.map_singleton,
      (Transfer.share_eq_iff hc _).mpr (by omega)]
  · intro p hp
    obtain ⟨i, hi, rfl⟩ := List.mem_map.mp hp
    have := (List.mem_range'_1.mp hi).2
    exact Transfer.share_lt (by omega)

end Paced

/-! ### Transfers -/

namespace Transfer

variable {ρ α : Type} [Reader ρ] [DriveService α]

/-- A transfer with a callback keeps the pace, and sends all parts where it succeeds. -/
theorem watch_paced (size : PartSize) (parts : List Part) (count : Nat) (tell : Progress α) (r : ρ)
    (s : Logged α) :
    Paced (percents count) 0 (watch size parts count (some tell) r s).events ∧
      ∀ n, (watch size parts count (some tell) r s).result = .ok n →
        n = parts.length ∧ Event.sent (watch size parts count (some tell) r s).events = n := by
  refine watch_of_ends (P := fun p => Paced (percents count) 0 p.events ∧
    ∀ n, p.result = .ok n → n = parts.length ∧ Event.sent p.events = n)
    ((run_ends size parts count (some tell) (untouched r s)).mono ?_ ?_)
  · rintro m t ⟨rfl, rounds, hc, ht⟩
    have hevents : t.state.2.events = rounds.flatMap Round.events := ht
    have hpaced := hc.paced (fun n => .nil n) (fun _ h => nomatch h)
    rw [List.append_nil] at hpaced
    dsimp only
    rw [hevents]
    refine ⟨hpaced, fun n hn => ?_⟩
    cases hn
    exact ⟨rfl, (hc.sent_le.2 rfl).trans (length_ordered parts)⟩
  · rintro e t (⟨-, ht⟩ | ⟨rounds, hc, ht⟩)
    · have hevents : t.state.2.events = [] := by rw [ht]; rfl
      dsimp only
      rw [hevents]
      exact ⟨.nil 0, fun _ h => nomatch h⟩
    · have hevents : t.state.2.events = rounds.flatMap Round.events := ht
      have hpaced := hc.paced (fun n => .nil n) (fun _ _ => rfl)
      rw [List.append_nil] at hpaced
      dsimp only
      rw [hevents]
      exact ⟨hpaced, fun _ h => nomatch h⟩

end Transfer

namespace Transfers

variable {ρ : Type} [Reader ρ] {limits : FileLimits} {size : PartSize}
  {tells : Nat → Option Int} {parts : List Part} {stream : ρ} {rounds : List Round}
  {x : Except Fault Unit}

theorem paced (h : Transfers limits size tells parts stream rounds x) {rest : List Event}
    (hrest : ∀ n, Paced tells n rest) (hx : ∀ e, x = .error e → rest = []) :
    Paced tells 0 (rounds.flatMap Round.events ++ rest) := by
  cases h with
  | unsized => exact hrest 0
  | course hc => exact hc.paced hrest hx

theorem sent_le (h : Transfers limits size tells parts stream rounds x) :
    Event.sent (rounds.flatMap Round.events) ≤ parts.length ∧
      (x = .ok () → Event.sent (rounds.flatMap Round.events) = parts.length) := by
  cases h with
  | unsized => exact ⟨Nat.zero_le _, nofun⟩
  | course hc =>
    rw [← Transfer.length_ordered parts]
    exact hc.sent_le

end Transfers

/-! ### Uploads -/

/-- The slices are sent in the rounds. -/
theorem Calls.sent_events (x : Calls) :
    Event.sent x.events = Event.sent (x.rounds.flatMap Round.events) := by
  obtain ⟨creates, rounds, completion⟩ := x
  have hcreates : Event.sent (creates.map Create.event) = 0 := by
    rw [Event.sent, List.countP_eq_zero]
    intro event he
    obtain ⟨create, -, rfl⟩ := List.mem_map.mp he
    exact Bool.false_ne_true
  have hcompletion : Event.sent (completion.map Finish.event).toList = 0 := by
    cases completion <;> rfl
  simp only [Event.sent] at hcreates hcompletion ⊢
  rw [events, List.countP_append, List.countP_append, hcreates, hcompletion, Nat.zero_add,
    Nat.add_zero]

namespace Conduct

variable {ρ α : Type} [Reader ρ] {limits : FileLimits} {c : Coordinator} {call : UploadCall ρ α}
  {calls : Calls} {x : Except Fault Report}

/-- What is told in an upload are the percentages of the parts that were asked for. -/
theorem tells_eq {tell : Progress α} (hprogress : call.progress = some tell) {source : Source ρ}
    {attempts : List Attempt} {out : Except Fault Outcome}
    (hx : settle (c.triesRapid call) (attempts.map Attempt.result) = some out) {k : Nat}
    (hasked : ∀ create ∈ attempts.map (Attempt.create (c.request call.parentId source)),
      create.AsksFor k) : c.tells call source.size = Transfer.percents k := by
  obtain ⟨a, ha⟩ : ∃ a, a ∈ attempts := by
    cases attempts with
    | nil => exact absurd rfl (@creates_ne_nil _ [] _ hx)
    | cons a _ => exact ⟨a, List.mem_cons_self⟩
  have hk : k = c.plan.count source.size :=
    (hasked _ (List.mem_map_of_mem ha)).inj (Create.asksFor_request c call.parentId source a)
  have hlength : (c.plan.plan source.size).length = k := by
    rw [PartSize.plan, List.length_map, List.length_range, hk]
  unfold Coordinator.tells
  rw [hprogress, hlength]
  rfl

/-- An upload with a callback keeps the pace of the parts that were asked for. -/
theorem paced (h : Conduct limits c call calls x) {tell : Progress α}
    (hprogress : call.progress = some tell) {k : Nat}
    (hasked : ∀ create ∈ calls.creates, create.AsksFor k) :
    Paced (Transfer.percents k) 0 calls.events := by
  unfold Calls.events
  rw [List.append_assoc]
  cases h with
  | unopened => exact .nil 0
  | unsettled | rapid => exact Paced.creates (.nil 0) _
  | interrupted hs hh hx hr ht =>
    rw [tells_eq hprogress hx hasked] at ht
    exact Paced.creates (ht.paced (fun n => .nil n) fun _ _ => rfl) _
  | unnamed hs hh hx hr hsession ht =>
    rw [tells_eq hprogress hx hasked] at ht
    exact Paced.creates (ht.paced (fun n => .nil n) fun _ h => nomatch h) _
  | transferred hs hh hx hr hsession ht ha =>
    rw [tells_eq hprogress hx hasked] at ht
    exact Paced.creates (ht.paced (fun n => .complete _ _ _ _ (.nil n)) fun _ h => nomatch h) _

/-- An upload sends no more slices than the selected list has parts, and all of them where it ends
well and was not rapid. -/
theorem sent_le (h : Conduct limits c call calls x) {out : Outcome}
    (hsettled : settle (c.triesRapid call) (calls.creates.map Create.result) = some (.ok out)) :
    Event.sent calls.events ≤ out.parts.length ∧
      ∀ report, x = .ok report → report.rapid = false →
        Event.sent calls.events = out.parts.length := by
  rw [calls.sent_events]
  cases h with
  | unopened => exact ⟨Nat.zero_le _, nofun⟩
  | unsettled => exact ⟨Nat.zero_le _, nofun⟩
  | rapid => exact ⟨Nat.zero_le _, fun report hr hrapid => by cases hr; cases hrapid⟩
  | interrupted hs hh hx hr ht =>
    rw [List.map_map] at hsettled
    cases hx.symm.trans hsettled
    exact ⟨ht.sent_le.1, nofun⟩
  | unnamed hs hh hx hr hsession ht =>
    rw [List.map_map] at hsettled
    cases hx.symm.trans hsettled
    exact ⟨ht.sent_le.1, nofun⟩
  | transferred hs hh hx hr hsession ht ha =>
    rw [List.map_map] at hsettled
    cases hx.symm.trans hsettled
    exact ⟨ht.sent_le.1, fun _ _ _ => ht.sent_le.2 rfl⟩

end Conduct

/-- An upload of the two bytes with a callback. -/
def Rehearsal.toldCall : UploadCall Stream Script :=
  { pairCall with progress := some fun _ => pure () }

namespace Coordinator

variable {ρ α : Type} [Reader ρ] [DriveService α]

/-- **Progress.**  In a transfer the callback is called once after each slice that was sent and
before the next one, and never where no parts were asked for; what it is told is a percentage,
never falls, and is a hundred from the last part that was asked for on.  So it is in an upload, and
where the selected list has as many parts as were asked for, the call after the last part, and no
other one, tells a hundred: a transfer of all parts ends with it, and one that was broken off did
not come to it. -/
theorem watch_progresses (tell : Progress α) :
    (∀ (size : PartSize) (parts : List Part) (count : Nat) (r : ρ) (s : Logged α),
      Progresses count (Transfer.watch size parts count (some tell) r s).events ∧
        ∀ n, (Transfer.watch size parts count (some tell) r s).result = .ok n →
          n = parts.length ∧
            Event.sent (Transfer.watch size parts count (some tell) r s).events = n) ∧
    ∀ (c : Coordinator) (call : UploadCall ρ α) (s : Logged (Site α)) (out : Outcome) (k : Nat),
      call.progress = some tell →
      (∀ create ∈ Event.creates (c.watch call s).2, create.AsksFor k) →
      settle (c.triesRapid call)
        ((Event.creates (c.watch call s).2).map Create.result) = some (.ok out) →
      out.parts.length = k → 0 < k →
      Progresses k (c.watch call s).2 ∧ Event.sent (c.watch call s).2 ≤ k ∧
        (∀ report, (c.watch call s).1 = .ok report → report.rapid = false →
          Event.sent (c.watch call s).2 = k) ∧
        (Event.sent (c.watch call s).2 = k →
          ∃ before, Event.percentages (c.watch call s).2 = before ++ [100] ∧
            ∀ p ∈ before, p < 100) ∧
        (Event.sent (c.watch call s).2 < k →
          ∀ p ∈ Event.percentages (c.watch call s).2, p < 100) := by
  constructor
  · intro size parts count r s
    obtain ⟨hpaced, hsent⟩ := Transfer.watch_paced size parts count tell r s
    exact ⟨hpaced.progresses, hsent⟩
  · intro c call s out k hprogress hasked hsettled hlength hk
    obtain ⟨calls, hc, he⟩ := c.watch_conduct call s
    rw [he] at hasked hsettled ⊢
    rw [calls.creates_events] at hasked hsettled
    have hpaced := hc.paced hprogress hasked
    have hsent := hc.sent_le hsettled
    rw [hlength] at hsent
    exact ⟨hpaced.progresses, hsent.1, hsent.2, hpaced.percentages_last hk,
      hpaced.percentages_lt⟩

open Rehearsal

/-- The two bytes in their two parts, which are listed the other way round. -/
theorem watch_progresses_pair : ∃ out : Outcome,
    settle (singles.triesRapid toldCall)
      ((Event.creates (singles.watch toldCall (listing [2, 1])).2).map Create.result) =
        some (.ok out) ∧ out.parts.length = 2 ∧
    Progresses 2 (singles.watch toldCall (listing [2, 1])).2 ∧
    Event.percentages (singles.watch toldCall (listing [2, 1])).2 = [50, 100] ∧
    ∃ before, Event.percentages (singles.watch toldCall (listing [2, 1])).2 = before ++ [100] ∧
      ∀ p ∈ before, p < 100 := by
  obtain ⟨x, hx, h⟩ := Option.bind_eq_some_iff.mp
    (by decide +kernel : (settle (singles.triesRapid toldCall)
        ((Event.creates (singles.watch toldCall (listing [2, 1])).2).map Create.result)).bind
          (fun x => x.toOption.map fun out => out.parts.length) = some 2)
  obtain ⟨out, hout, hlength⟩ := Option.map_eq_some_iff.mp h
  cases ok_of_toOption hout
  obtain ⟨-, hupload⟩ := watch_progresses (ρ := Stream) (α := Script) fun _ => pure ()
  obtain ⟨hprogresses, -, -, hlast, -⟩ := hupload singles toldCall (listing [2, 1]) out 2 rfl
    (singles.watch_asks toldCall (listing [2, 1]) (n := 2) rfl) hx hlength (by decide)
  exact ⟨out, hx, hlength, hprogresses, by decide +kernel, hlast (by decide +kernel)⟩

end Coordinator

end RapidUpload
