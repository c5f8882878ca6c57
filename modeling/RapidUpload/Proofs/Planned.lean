import RapidUpload.Proofs.Confirmed

/-!
# Planned parts

How many parts an upload asks for is up to the plan of its coordinator, and how large a slice is up
to the settings.  Nothing keeps the two sizes equal.

* `PartSize.slices_eq_iff`: when two sizes cut a content alike.
* `Create.Granted`: the server lists the parts that a request asks for.
* `Coordinator.watch_planned`: where it does, as many slices are sent as the plan has, each of the
  size of the settings.
-/

namespace RapidUpload

variable {ρ α : Type}

/-! ### Slices of two sizes -/

namespace PartSize

theorem count_le_one_iff (p : PartSize) (size : Nat) : p.count size ≤ 1 ↔ size ≤ p.bytes := by
  have hpos := p.pos
  rw [count, Nat.div_le_iff_le_mul_add_pred hpos]
  omega

/-- The first slice is everything where one is enough. -/
theorem slice_zero_of_le {p : PartSize} {content : ByteArray} (h : content.size ≤ p.bytes) :
    p.slice content 0 = content := by
  rw [slice_eq_window, Nat.zero_mul, ByteArray.window_of_size_le h]

/-- As many slices as one size needs are the same under another size where the sizes are equal, or
one slice of either is enough. -/
theorem slices_eq_iff (p q : PartSize) (content : ByteArray) :
    (List.range (p.count content.size)).map (q.slice content) =
        (List.range (p.count content.size)).map (p.slice content) ↔
      p.bytes = q.bytes ∨ content.size ≤ p.bytes ∧ content.size ≤ q.bytes := by
  constructor
  · intro h
    by_cases hnone : p.count content.size = 0
    · rw [← Nat.le_zero, ← p.slice_empty_iff, size_slice] at hnone
      have := p.pos
      omega
    · -- the first slices tell the sizes apart, unless both hold everything
      have hfirst := List.map_inj_left.mp h 0 (List.mem_range.mpr (by omega))
      have hsize := congrArg ByteArray.size hfirst
      rw [size_slice, size_slice] at hsize
      omega
  · rintro (hpq | ⟨hp, hq⟩)
    · refine List.map_congr_left fun i _ => ?_
      rw [slice, slice, hpq]
    · refine List.map_congr_left fun i hi => ?_
      have hi := List.mem_range.mp hi
      obtain rfl : i = 0 := by
        have := (p.count_le_one_iff content.size).mpr hp
        omega
      rw [slice_zero_of_le hp, slice_zero_of_le hq]

end PartSize

/-! ### What the server grants -/

/-- A reply that opens a session or lists parts lists those of the numbers. -/
def CreateReply.Grants (reply : CreateReply) (numbers : List Int) : Prop :=
  reply.answer.session.isSome = true ∨ reply.answer.parts ≠ [] →
    (reply.answer.parts.map Part.number).Perm numbers

/-- The server lists the parts that the request asks for. -/
def Create.Granted (x : Create) : Prop :=
  ∀ k, x.AsksFor k → ∀ reply, CreateReply.of x.result = some reply →
    reply.Grants (Part.numbers k)

/-- The target of replies that grant what was asked for has the parts that were asked for. -/
theorem CreateReply.perm_target {earlier : Option CreateReply} {last : CreateReply}
    {session : Session} {parts : List Part} {numbers : List Int}
    (h : target earlier last = some (session, parts)) (hl : last.Grants numbers)
    (he : ∀ first, earlier = some first → first.Grants numbers) :
    (parts.map Part.number).Perm numbers := by
  unfold target at h
  split at h
  · rename_i hown
    cases h
    exact hl (.inl (by rw [hown]; rfl))
  · rename_i first hown
    obtain ⟨_, hfirst, hp⟩ := Option.map_eq_some_iff.mp h
    cases hp
    split
    · exact he first rfl (.inl (by rw [hfirst]; rfl))
    · rename_i hne
      exact hl (.inr fun hnil => hne (by rw [hnil]; rfl))
  · cases h

/-- A transfer has the parts that were asked for where all replies grant them. -/
theorem Negotiator.Comes.perm_parts {n : Negotiator} {mute : Prop} {unprovable : Fault → Prop}
    {replies : List CreateReply} {out : Outcome} {numbers : List Int}
    (h : n.Comes mute unprovable replies (.ok out)) (hr : out.stage.isRapid = false)
    (hg : ∀ reply ∈ replies, reply.Grants numbers) : (out.parts.map Part.number).Perm numbers := by
  cases h with
  | first _ _ _ hy | alone _ hy =>
    obtain ⟨session, -, htarget⟩ := hy.target_eq hr rfl
    exact CreateReply.perm_target htarget (hg _ List.mem_cons_self) fun _ h => nomatch h
  | second _ _ _ hy =>
    obtain ⟨session, -, htarget⟩ := hy.target_eq hr rfl
    refine CreateReply.perm_target htarget (hg _ (List.mem_cons_of_mem _ List.mem_cons_self)) ?_
    rintro _ ⟨⟩
    exact hg _ List.mem_cons_self

/-- So do attempts that settle a negotiation by a transfer. -/
theorem Handshake.perm_parts {rapid : Bool} {attempts : List Attempt} {out : Outcome}
    {numbers : List Int} (h : Handshake rapid attempts)
    (hx : settle rapid (attempts.map Attempt.result) = some (.ok out))
    (hr : out.stage.isRapid = false)
    (hg : ∀ a ∈ attempts, ∀ reply, CreateReply.of a.result = some reply → reply.Grants numbers) :
    (out.parts.map Part.number).Perm numbers := by
  obtain ⟨replies, hmap, hcomes⟩ := h.replies (n := ⟨rapid, .standard⟩) hx
  refine hcomes.perm_parts hr fun reply hreply => ?_
  have hm := List.mem_map_of_mem (f := some) hreply
  rw [← hmap] at hm
  obtain ⟨a, ha, ho⟩ := List.mem_map.mp hm
  exact hg a ha reply ho

/-! ### What is sent of it -/

/-- A plan in parts of two bytes, with slices of one. -/
def Rehearsal.uneven : Coordinator :=
  { pairs with config := singles.config }

namespace Coordinator

open Rehearsal (listing pair pairCall reads_pair singles uneven)

variable [Reader ρ] [DriveService α] {c : Coordinator} {call : UploadCall ρ α}
  {s : Logged (Site α)} {content : ByteArray} {limit : Nat}

/-- **What is sent of a plan.**  Where the server grants the parts that are asked for, an upload
that was not rapid sends and reports as many slices as the plan has, each of the size of the
settings. These are the slices of the plan exactly where the sizes are equal or the content is one
slice of either, and all of the content exactly where the plan has as many as the settings need. -/
theorem watch_planned (hreads : call.origin.Reads limit content)
    (hsize : call.size = some (content.size : Int))
    (hgranted : ∀ create ∈ Event.creates (c.watch call s).2, create.Granted) {report : Report}
    (hrun : (c.watch call s).1 = .ok report) (hrapid : report.rapid = false) :
    let bodies := (Event.puts (c.watch call s).2).map Prod.snd
    let planned := List.range (c.plan.count content.size)
    report.partsUploaded = planned.length ∧
      bodies = planned.map (c.config.partSize.slice content) ∧
      (bodies = planned.map (c.plan.slice content) ↔
        c.plan.bytes = c.config.partSize.bytes ∨
          content.size ≤ c.plan.bytes ∧ content.size ≤ c.config.partSize.bytes) ∧
      (ByteArray.join bodies = content ↔
        c.config.partSize.count content.size ≤ c.plan.count content.size) := by
  have hasks := c.watch_asks call s hsize
  obtain ⟨calls, hc, he⟩ := c.watch_conduct call s
  rw [hrun] at hc
  rw [he, calls.creates_events] at hgranted hasks
  rw [he, calls.puts_events]
  generalize hx : Except.ok report = x at hc
  cases hc with
  | unopened | unsettled | interrupted | unnamed => cases hx
  | rapid =>
    cases hx
    cases hrapid
  | @transferred source attempts out rounds session answer x hs hh hsettle hr hsession ht ha =>
    have hperm : (out.parts.map Part.number).Perm (Part.numbers (c.plan.count content.size)) :=
      hh.perm_parts hsettle hr fun a hm reply hreply =>
        have hcreate := List.mem_map_of_mem (f := Attempt.create _) hm
        hgranted _ hcreate _ (hasks _ hcreate) reply hreply
    have hlength : out.parts.length = c.plan.count content.size := by
      have := hperm.length_eq
      rwa [List.length_map, Part.length_numbers] at this
    have hordered := (Transfer.ordered_perm out.parts).length_eq.trans hlength
    have hsliced := ht.sliced (hs.delivers hreads)
    have hbodies := hsliced.bodies
    rw [hordered] at hbodies
    intro bodies planned
    refine ⟨?_, hbodies, ?_, ?_⟩
    · rw [ha] at hx
      cases hj : session.confirmed answer with
      | error e =>
        rw [hj] at hx
        cases hx
      | ok j =>
        rw [hj] at hx
        cases hx
        rw [List.length_range]
        exact hlength
    · rw [← PartSize.slices_eq_iff, ← hbodies]
    · rw [← hordered]
      exact hsliced.whole_iff

/-- A request to the server that lists parts, asked for just these, is granted. -/
theorem granted_listing {c : Coordinator} {numbers : List Int}
    (hnumbers : numbers.Perm (Part.numbers (c.plan.count pair.bytes.size)))
    (hreplies : (Event.creates (c.watch pairCall (listing numbers)).2).map (fun create =>
      (CreateReply.of create.result).map fun reply => reply.answer.parts.map Part.number) =
        [some numbers]) :
    ∀ create ∈ Event.creates (c.watch pairCall (listing numbers)).2, create.Granted := by
  intro create hcreate k hk reply hreply _
  rw [hk.inj (c.watch_asks pairCall (listing numbers) rfl create hcreate)]
  have hm := List.mem_map_of_mem (f := fun create => (CreateReply.of create.result).map
    fun reply => reply.answer.parts.map Part.number) hcreate
  rw [hreplies, List.mem_singleton, hreply] at hm
  have hlisted : reply.answer.parts.map Part.number = numbers := Option.some.inj hm
  rw [hlisted]
  exact hnumbers

theorem watch_planned_pair : ∃ report : Report,
    (singles.watch pairCall (listing [2, 1])).1 = .ok report ∧ report.partsUploaded = 2 ∧
      (Event.puts (singles.watch pairCall (listing [2, 1])).2).map Prod.snd =
        [singles.plan.slice pair.bytes 0, singles.plan.slice pair.bytes 1] := by
  obtain ⟨report, hreport, hrapid⟩ := Option.map_eq_some_iff.mp
    (by decide +kernel :
      (singles.watch pairCall (listing [2, 1])).1.toOption.map Report.rapid = some false)
  have hrun := ok_of_toOption hreport
  obtain ⟨hcount, -, hplanned, -⟩ := watch_planned (reads_pair 0) rfl
    (granted_listing (by decide) (by decide +kernel)) hrun hrapid
  exact ⟨report, hrun, hcount, hplanned.mpr (.inl rfl)⟩

/-- The first byte is sent alone, and the file is reported as uploaded. -/
theorem watch_unplanned : pairCall.origin.Reads 0 pair.bytes ∧
    pairCall.size = some (pair.bytes.size : Int) ∧
    (∀ create ∈ Event.creates (uneven.watch pairCall (listing [1])).2, create.Granted) ∧
    ∃ report : Report, (uneven.watch pairCall (listing [1])).1 = .ok report ∧
      report.rapid = false ∧ report.partsUploaded = 1 ∧
      (Event.puts (uneven.watch pairCall (listing [1])).2).map Prod.snd ≠
        (List.range (uneven.plan.count pair.bytes.size)).map (uneven.plan.slice pair.bytes) ∧
      ByteArray.join ((Event.puts (uneven.watch pairCall (listing [1])).2).map Prod.snd) ≠
        pair.bytes := by
  obtain ⟨report, hreport, hpair⟩ := Option.map_eq_some_iff.mp
    (by decide +kernel : (uneven.watch pairCall (listing [1])).1.toOption.map
      (fun report => (report.rapid, report.partsUploaded)) = some (false, 1))
  obtain ⟨hrapid, hparts⟩ := Prod.mk.inj hpair
  exact ⟨reads_pair 0, rfl, granted_listing (by decide) (by decide +kernel), report,
    ok_of_toOption hreport, hrapid, hparts, by decide +kernel, by decide +kernel⟩

end Coordinator

end RapidUpload
