import RapidUpload.Proofs.Fitting
import RapidUpload.Proofs.Orderly
import RapidUpload.Proofs.Sizes
import RapidUpload.Proofs.Slices
import RapidUpload.Rehearsal.Script

/-!
# What uploads send

An upload sends the entries of the selected list the slices of its content, by their positions.

* `Coordinator.watch_sends`: what is sent, however the server lists the parts.
* `Coordinator.watch_slices`: where it lists those that were asked for, all of the content is sent.
-/

namespace RapidUpload

/-- A call after the negotiation does what it is for: a slice is sent, a percentage is taken, and
the completion names its file. -/
def Event.Succeeded : Event → Prop
  | .create _ _ => True
  | .put _ _ result | .told _ result => result = .ok ()
  | .complete _ fileId _ result => ∃ j, result = .ok j ∧ (j.field "file_id").same fileId = true

instance : DecidablePred Event.Succeeded
  | .create _ _ => isTrue trivial
  | .put _ _ (.ok ()) | .told _ (.ok ()) => isTrue rfl
  | .put _ _ (.error _) | .told _ (.error _) => isFalse fun h => nomatch h
  | .complete _ fileId _ (.ok j) =>
    decidable_of_iff ((j.field "file_id").same fileId = true)
      ⟨fun h => ⟨j, rfl, h⟩, fun ⟨_, h, hs⟩ => Except.ok.inj h ▸ hs⟩
  | .complete _ _ _ (.error _) => isFalse fun ⟨_, h, _⟩ => nomatch h

/-- The request asks for the first `k` parts. -/
def Create.AsksFor (x : Create) (k : Nat) : Prop :=
  x.body.get? "part_info_list" =
    some (.arr ((Part.numbers k).map fun n => Json.obj [("part_number", .int n)]))

/-- A request asks for one number of parts. -/
theorem Create.AsksFor.inj {x : Create} {k m : Nat} (hk : x.AsksFor k) (hm : x.AsksFor m) :
    k = m := by
  have h := congrArg List.length (Json.arr.inj (Option.some.inj (hk.symm.trans hm)))
  rwa [List.length_map, List.length_map, Part.length_numbers, Part.length_numbers] at h

/-- The request for a source asks for the parts that its size needs. -/
theorem Create.asksFor_request {ρ : Type} [Reader ρ] (c : Coordinator) (parentId : String)
    (source : Source ρ) (a : Attempt) :
    (Attempt.create (c.request parentId source) a).AsksFor (c.plan.count source.size) :=
  congrArg (fun parts => some (Json.arr parts)) (Part.toJson_plan _ _)

/-- Memory and messages have room for the slices of a content, and a stream with a limit gives
them. -/
def PartSize.Fits (p : PartSize) (limits : FileLimits) (limit : Nat) (content : ByteArray) : Prop :=
  p.bytes ≤ min limit limits.largest ∧ content.size < pow2 64

/-- As many parts as a content needs are less than one part longer than it. -/
theorem PartSize.count_mul_lt (p : PartSize) (size : Nat) :
    p.count size * p.bytes < size + p.bytes := by
  have hpos := p.pos
  have := Nat.div_mul_le_self (size + p.bytes - 1) p.bytes
  rw [count]
  omega

namespace PartSize.Fits

variable {p : PartSize} {limits : FileLimits} {limit : Nat} {content : ByteArray}

/-- All parts of a content that fits can be told of together. -/
theorem total_lt (h : p.Fits limits limit content) :
    p.count content.size * p.bytes < pow2 65 := by
  have hsmall := (Nat.le_min.mp h.1).2
  have hlargest := limits.largest_lt_pow2
  have hlt := p.count_mul_lt content.size
  have hroom : pow2 64 + pow2 63 < pow2 65 := by decide
  have := h.2
  omega

/-- The numbers of the parts of a content that fits have a text. -/
theorem short (h : p.Fits limits limit content) {number : Int}
    (hn : number ∈ Part.numbers (p.count content.size)) : Integer.Short number := by
  have hcount := Nat.le_mul_of_pos_right (p.count content.size) p.pos
  have hnumber := Part.mem_numbers.mp hn
  have htotal := h.total_lt
  exact Integer.short_of_natAbs_lt (k := 65) (by omega) (by decide)

end PartSize.Fits

namespace Transfers

variable {ρ : Type} [Reader ρ] {limits : FileLimits} {size : PartSize}
  {tells : Nat → Option Int} {parts : List Part} {stream : ρ} {rounds : List Round} {limit : Nat}
  {content : ByteArray}

/-- A transfer of all parts sends each entry in its turn the slice of its position. -/
theorem sliced (h : Transfers limits size tells parts stream rounds (.ok ()))
    (hd : Delivers limit stream content) :
    Sliced size content (Transfer.ordered parts) (rounds.map fun y => (y.url, y.bytes)) := by
  have hurls := h.succeeded.1
  cases h with
  | course hc hr =>
    intro i
    have hurl : rounds[i]?.map Round.url = (Transfer.ordered parts)[i]?.map Part.url := by
      rw [← List.getElem?_map, ← List.getElem?_map, hurls]
    rw [List.getElem?_map]
    cases hy : rounds[i]? with
    | none =>
      rw [hy, Option.map_none, eq_comm, Option.map_eq_none_iff] at hurl
      rw [hurl]
      rfl
    | some y =>
      rw [hy, Option.map_some, eq_comm] at hurl
      obtain ⟨part, hp, hpu⟩ := Option.map_eq_some_iff.mp hurl
      rw [hp, Option.map_some, Option.map_some, hpu, hc.slices (hr hd) hy, size.slice_eq_window]

/-- Where everything fits a transfer that fails has a round that failed. -/
theorem failed_round {e : Fault} (h : Transfers limits size tells parts stream rounds (.error e))
    (hd : Delivers limit stream content) (hl : size.bytes ≤ min limit limits.largest)
    (ht : parts.length * size.bytes < pow2 65)
    (hn : ∀ part ∈ parts, Integer.Short part.number) : ∃ y ∈ rounds, y.FailedWith e := by
  cases h with
  | unsized hs => exact absurd hs (Size.inUnit_ok (by decide) ht (by decide) e)
  | course hc hr =>
    refine hc.failed_round (hr hd) hl (fun n hn e =>
      Size.inUnit_ok (k := 63) (by decide) ?_ (by decide) e) fun part hp =>
        hn part ((Transfer.ordered_perm parts).mem_iff.mp hp)
    have : size.bytes ≤ limits.largest := Nat.le_trans hl (Nat.min_le_right _ _)
    exact Nat.lt_of_le_of_lt (Nat.le_trans hn this) limits.largest_lt_pow2

end Transfers

/-- The completion is the only one among the calls. -/
theorem Calls.completion_of_mem {x : Calls} {finish : Finish} (h : finish.event ∈ x.events) :
    x.completion = some finish := by
  rcases List.mem_append.mp h with h | h
  · rcases List.mem_append.mp h with h | h
    · obtain ⟨create, -, h⟩ := List.mem_map.mp h
      cases h
    · obtain ⟨y, -, h⟩ := List.mem_flatMap.mp h
      rcases List.mem_cons.mp h with h | h
      · cases h
      · obtain ⟨p, -, h⟩ := Option.map_eq_some_iff.mp (Option.mem_toList.mp h)
        cases h
  · obtain ⟨⟨_, _, _, _⟩, ho, h⟩ := Option.map_eq_some_iff.mp (Option.mem_toList.mp h)
    obtain ⟨_, _, _, _⟩ := finish
    cases h
    exact ho

/-- A round that failed has a call that did not succeed. -/
theorem Round.not_succeeded {y : Round} {e : Fault} (h : y.FailedWith e) :
    ∃ event ∈ y.events, ¬event.Succeeded := by
  obtain ⟨url, bytes, sent, told⟩ := y
  rcases h with ⟨rfl, -⟩ | ⟨rfl, n, rfl⟩
  · exact ⟨_, List.mem_cons_self, fun h => nomatch h⟩
  · exact ⟨_, List.mem_cons_of_mem _ List.mem_cons_self, fun h => nomatch h⟩

/-- Nothing comes of no requests. -/
theorem creates_ne_nil {rapid : Bool} {creates : List Create} {x : Except Fault Outcome}
    (h : settle rapid (creates.map Create.result) = some x) : creates ≠ [] := by
  rintro rfl
  cases rapid <;> cases h

namespace Conduct

variable {ρ α : Type} [Reader ρ] {limits : FileLimits} {c : Coordinator} {call : UploadCall ρ α}
  {calls : Calls} {x : Except Fault Report} {out : Outcome}

/-- All requests ask for the parts that the size of the source needs. -/
theorem asks (h : Conduct limits c call calls x) : calls.creates = [] ∨
    ∃ source : Source ρ, source.Holds call.size call.origin ∧
      ∀ create ∈ calls.creates, create.AsksFor (c.plan.count source.size) := by
  have asked : ∀ (source : Source ρ) (attempts : List Attempt),
      ∀ create ∈ attempts.map (Attempt.create (c.request call.parentId source)),
        create.AsksFor (c.plan.count source.size) := by
    intro source attempts create hc
    obtain ⟨a, -, rfl⟩ := List.mem_map.mp hc
    exact Create.asksFor_request c call.parentId source a
  cases h with
  | unopened => exact .inl rfl
  | unsettled hs | rapid hs | interrupted hs | unnamed hs | transferred hs =>
    exact .inr ⟨_, hs, asked _ _⟩

/-- An upload whose completion names its file has sent all parts, and reports them. -/
theorem completed (h : Conduct limits c call calls x) {finish : Finish}
    (hf : calls.completion = some finish) (hs : finish.event.Succeeded)
    (hsettled : settle (c.triesRapid call) (calls.creates.map Create.result) = some (.ok out)) :
    ∃ (source : Source ρ) (report : Report), source.Holds call.size call.origin ∧
      Transfers limits c.config.partSize (c.tells call source.size) out.parts source.stream
        calls.rounds (.ok ()) ∧
      x = .ok report ∧ report.rapid = false ∧ report.partsUploaded = out.parts.length := by
  cases h with
  | unopened | unsettled | rapid | interrupted | unnamed => cases hf
  | @transferred source attempts out' rounds session answer x hsource hh hx hr hsession ht ha =>
    cases hf
    rw [List.map_map] at hsettled
    cases (hx.symm.trans hsettled)
    obtain ⟨j, rfl, hj⟩ := hs
    obtain ⟨_, _, hinto⟩ := settle_ok hx hr
    have hconfirmed : session.confirmed (.ok j) = .ok j := by
      -- what the completion names equals the file of the session, which was told of
      have htold : (j.field "file_id").isShort = true :=
        Json.isShort_of_same hj (Outcome.into_told hinto hsession)
      show ((j.field "file_id").told >>= fun _ => _) = _
      rw [Json.told_of_short htold]
      exact if_pos hj
    rw [hconfirmed] at ha
    exact ⟨source, _, hsource, ht, ha, rfl, rfl⟩

/-- Where everything fits an upload whose calls succeed comes to its completion. -/
theorem completion_isSome (h : Conduct limits c call calls x) {limit : Nat} {content : ByteArray}
    (hsettled : settle (c.triesRapid call) (calls.creates.map Create.result) = some (.ok out))
    (hrapid : out.stage.isRapid = false) (hcalls : ∀ event ∈ calls.events, event.Succeeded)
    (hreads : call.origin.Reads limit content)
    (hfits : c.config.partSize.Fits limits limit content)
    (hparts : (out.parts.map Part.number).Perm
      (Part.numbers (c.config.partSize.count content.size)))
    (htold : ∀ session ∈ out.session, session.IsTold) : calls.completion.isSome = true := by
  cases h with
  | unopened => exact absurd rfl (creates_ne_nil hsettled)
  | unsettled hs hh hx =>
    rw [List.map_map] at hsettled
    cases hx _ hsettled
  | rapid hs hh hx hr =>
    rw [List.map_map] at hsettled
    cases (hx.symm.trans hsettled)
    rw [hrapid] at hr
    cases hr
  | @interrupted source attempts out' rounds e hs hh hx hr ht =>
    rw [List.map_map] at hsettled
    cases (hx.symm.trans hsettled)
    have hlength := hparts.length_eq
    rw [List.length_map, Part.length_numbers] at hlength
    have htotal : out.parts.length * c.config.partSize.bytes < pow2 65 :=
      hlength ▸ hfits.total_lt
    have hshort : ∀ part ∈ out.parts, Integer.Short part.number := fun part hp =>
      hfits.short (hparts.mem_iff.mp (List.mem_map_of_mem hp))
    -- the round that failed has a call that did not succeed
    obtain ⟨y, hy, hbad⟩ := ht.failed_round (hs.delivers hreads) hfits.1 htotal hshort
    obtain ⟨event, hm, hne⟩ := Round.not_succeeded hbad
    refine absurd (hcalls event ?_) hne
    exact List.mem_append_left _
      (List.mem_append_right _ (List.mem_flatMap.mpr ⟨y, hy, hm⟩))
  | unnamed hs hh hx hr hsession ht hn =>
    rw [List.map_map] at hsettled
    cases (hx.symm.trans hsettled)
    exact absurd (htold _ hsession) hn
  | transferred => rfl

end Conduct

namespace Rehearsal

/-- Uploads in parts of two bytes, after a sample of one. -/
def pairs : Coordinator :=
  ⟨"drive", ⟨true, none, ⟨2, by decide⟩, ⟨1⟩, "overwrite"⟩, ⟨2, by decide⟩⟩

/-- Two bytes, one at each read. -/
def pair : Stream := ⟨⟨#[1, 2]⟩, 0, [1], false, none, false, 0⟩

/-- An upload of the two bytes. -/
def pairCall : UploadCall Stream Script :=
  ⟨.stream pair, "root", some "pair", some 2, none, none⟩

theorem reads_pair (limit : Nat) : pairCall.origin.Reads limit pair.bytes :=
  Stream.delivers_bytes (s := pair) ⟨rfl, rfl, by decide⟩ rfl limit

/-- Uploads in parts of one byte, after a sample of one. -/
def singles : Coordinator := { pairs with
  config := { pairs.config with partSize := ⟨1, by decide⟩ }
  plan := ⟨1, by decide⟩ }

/-- The address of a part. -/
def address (number : Int) : Json := .str ("part " ++ toString number)

/-- A server that wants the bytes, and lists parts of some numbers. -/
def listing (numbers : List Int) : Logged (Site Script) :=
  let parts := numbers.map fun n => Json.obj [("part_number", .int n), ("upload_url", address n)]
  let answer := Json.obj [("file_id", "file"), ("upload_id", "upload"),
    ("part_info_list", .arr parts)]
  ⟨⟨⟨none, "drive", [⟨none, .ok answer⟩], none, []⟩, roomy⟩, #[]⟩

end Rehearsal

theorem ok_of_toOption {ε β : Type} {x : Except ε β} {b : β} (h : x.toOption = some b) :
    x = .ok b := by
  cases x with
  | ok b' => exact congrArg Except.ok (Option.some.inj h)
  | error e => cases h

namespace Coordinator

open Rehearsal (listing pair pairCall pairs reads_pair singles)

variable {ρ α : Type} [Reader ρ] [DriveService α] {c : Coordinator} {call : UploadCall ρ α}
  {s : Logged (Site α)} {content : ByteArray} {limit : Nat}

/-- Every request asks for the parts that the declared size needs. -/
theorem watch_asks (c : Coordinator) (call : UploadCall ρ α) (s : Logged (Site α)) {n : Nat}
    (hsize : call.size = some (n : Int)) :
    ∀ create ∈ Event.creates (c.watch call s).2, create.AsksFor (c.plan.count n) := by
  intro create hcreate
  obtain ⟨calls, hc, he⟩ := c.watch_conduct call s
  rw [he, calls.creates_events] at hcreate
  rcases hc.asks with hnil | ⟨source, hs, hasks⟩
  · rw [hnil] at hcreate
    cases hcreate
  · rw [← Int.natCast_inj.mp (hs.size_eq _ hsize)]
    exact hasks create hcreate

/-- **What an upload sends.**  However the server lists the parts, an upload that was not rapid
sends the entries of the selected list, in the order of their numbers, the slices in their order.
They are all of the content exactly where there are enough entries, and each slice is sent once,
for the entry of its number, exactly where the list has each number once and none below the
first. -/
theorem watch_sends (hreads : call.origin.Reads limit content) {report : Report}
    (hrun : (c.watch call s).1 = .ok report) (hrapid : report.rapid = false) :
    ∃ out, settle (c.triesRapid call)
        ((Event.creates (c.watch call s).2).map Create.result) = some (.ok out) ∧
      Sliced c.config.partSize content (Transfer.ordered out.parts)
        (Event.puts (c.watch call s).2) ∧
      (ByteArray.join ((Event.puts (c.watch call s).2).map Prod.snd) = content ↔
        c.config.partSize.count content.size ≤ out.parts.length) ∧
      (c.config.partSize.Sends content (Transfer.ordered out.parts)
          (Event.puts (c.watch call s).2) ↔ c.config.partSize.Lists content out.parts) := by
  obtain ⟨calls, hc, he⟩ := c.watch_conduct call s
  rw [hrun] at hc
  rw [he, calls.creates_events, calls.puts_events]
  generalize hx : Except.ok report = x at hc
  cases hc with
  | unopened | unsettled | interrupted | unnamed => cases hx
  | rapid =>
    cases hx
    cases hrapid
  | @transferred source attempts out rounds session answer x hs hh hsettle hr hsession ht ha =>
    have hsliced := ht.sliced (hs.delivers hreads)
    refine ⟨out, ?_, hsliced, ?_, ?_⟩
    · rw [List.map_map]
      exact hsettle
    · have hperm := (Transfer.ordered_perm out.parts).length_eq
      rw [hsliced.whole_iff, hperm]
    · rw [hsliced.sends_iff (Transfer.ordered_sorted out.parts)]
      exact PartSize.lists_of_perm ((Transfer.ordered_perm out.parts).map Part.number)

theorem watch_sends_pair : ∃ (report : Report) (out : Outcome),
    (singles.watch pairCall (listing [2, 1])).1 = .ok report ∧ report.rapid = false ∧
    Sliced singles.config.partSize pair.bytes (Transfer.ordered out.parts)
      (Event.puts (singles.watch pairCall (listing [2, 1])).2) ∧
    (Event.puts (singles.watch pairCall (listing [2, 1])).2).map Prod.snd =
      [⟨#[1]⟩, ⟨#[2]⟩] := by
  obtain ⟨report, hreport, hrapid⟩ := Option.map_eq_some_iff.mp
    (by decide +kernel :
      (singles.watch pairCall (listing [2, 1])).1.toOption.map Report.rapid = some false)
  have hrun := ok_of_toOption hreport
  obtain ⟨out, -, hsliced, -, -⟩ := watch_sends (reads_pair 0) hrun hrapid
  exact ⟨report, out, hrun, hrapid, hsliced, by decide +kernel⟩

/-- The server may list too few parts, and nothing of the content is sent. -/
theorem watch_sends_nothing : pairs.plan = pairs.config.partSize ∧
    pairCall.size = some (pair.bytes.size : Int) ∧ pairCall.origin.Reads 0 pair.bytes ∧
    ∃ (report : Report) (out : Outcome),
      (pairs.watch pairCall (listing [])).1 = .ok report ∧ report.rapid = false ∧
      settle (pairs.triesRapid pairCall)
        ((Event.creates (pairs.watch pairCall (listing [])).2).map Create.result) =
          some (.ok out) ∧
      ¬ pairs.config.partSize.Sends pair.bytes (Transfer.ordered out.parts)
        (Event.puts (pairs.watch pairCall (listing [])).2) ∧
      ByteArray.join ((Event.puts (pairs.watch pairCall (listing [])).2).map Prod.snd) ≠
        pair.bytes := by
  refine ⟨rfl, rfl, reads_pair 0, ?_⟩
  obtain ⟨report, hreport, hrapid⟩ := Option.map_eq_some_iff.mp
    (by decide +kernel :
      (pairs.watch pairCall (listing [])).1.toOption.map Report.rapid = some false)
  obtain ⟨x, hx, h⟩ := Option.bind_eq_some_iff.mp
    (by decide +kernel : (settle (pairs.triesRapid pairCall)
        ((Event.creates (pairs.watch pairCall (listing [])).2).map Create.result)).bind
          (fun x => x.toOption.map fun out => out.parts.length) = some 0)
  obtain ⟨out, hout, hnone⟩ := Option.map_eq_some_iff.mp h
  cases ok_of_toOption hout
  refine ⟨report, out, ok_of_toOption hreport, hrapid, hx, ?_, by decide +kernel⟩
  intro hsends
  rw [List.length_eq_zero_iff.mp hnone] at hsends
  have := (hsends 0 (by decide)).1
  rw [Transfer.ordered, List.foldr_nil, List.map_nil, List.count_nil] at this
  omega

/-- **Slicing.**  Where the selected list has the numbers that were asked for, in any order, and
every call after the negotiation succeeds, the content is cut into as many slices as it needs, each
goes to the address of its part, and the upload reports them all. -/
theorem watch_slices {out : Outcome} {k : Nat} (hplan : c.plan = c.config.partSize)
    (hreads : call.origin.Reads limit content) (hsize : call.size = some (content.size : Int))
    (hsettled : settle (c.triesRapid call)
      ((Event.creates (c.watch call s).2).map Create.result) = some (.ok out))
    (hstage : out.stage = .transferRequired)
    (hasked : ∀ create ∈ Event.creates (c.watch call s).2, create.AsksFor k)
    (hparts : (out.parts.map Part.number).Perm (Part.numbers k))
    (hcalls : ∀ event ∈ (c.watch call s).2, event.Succeeded)
    (hmade : (∃ finish : Finish, finish.event ∈ (c.watch call s).2) ∨
      c.config.partSize.Fits s.state.disk.limits limit content ∧
        ∀ session ∈ out.session, session.IsTold) :
    ∃ report, (c.watch call s).1 = .ok report ∧ report.rapid = false ∧
      report.partsUploaded = k ∧ k = c.config.partSize.count content.size ∧
      (Event.puts (c.watch call s).2).length = k ∧
      (∀ part ∈ out.parts, ∀ n : Nat, part.number = 1 + (n : Int) →
        (Event.puts (c.watch call s).2)[n]? =
          some (part.url, c.config.partSize.slice content n)) ∧
      (∀ put ∈ Event.puts (c.watch call s).2, put.2.size ≠ 0) ∧
      ByteArray.join ((Event.puts (c.watch call s).2).map Prod.snd) = content := by
  -- the parts that were asked for are those the content needs
  have hk : k = c.config.partSize.count content.size := by
    obtain ⟨create, hcreate⟩ := List.exists_mem_of_ne_nil _ (creates_ne_nil hsettled)
    rw [← hplan]
    exact (hasked create hcreate).inj (c.watch_asks call s hsize create hcreate)
  have hlength : out.parts.length = k := by
    have := hparts.length_eq
    rwa [List.length_map, Part.length_numbers] at this
  -- the upload comes to its completion, and so all parts were sent
  obtain ⟨calls, hc, he⟩ := c.watch_conduct call s
  rw [he] at hsettled hcalls hmade ⊢
  rw [calls.creates_events] at hsettled
  rw [calls.puts_events]
  obtain ⟨finish, hfinish⟩ : ∃ finish, calls.completion = some finish := by
    rcases hmade with ⟨finish, hm⟩ | ⟨hfits, htold⟩
    · exact ⟨finish, Calls.completion_of_mem hm⟩
    · exact Option.isSome_iff_exists.mp
        (hc.completion_isSome hsettled (by rw [hstage]; rfl) hcalls hreads hfits (hk ▸ hparts)
          htold)
  have hdone : finish.event ∈ calls.events :=
    List.mem_append_right _ (by rw [hfinish]; exact List.mem_cons_self)
  obtain ⟨source, report, hs, ht, hx, hrapid, hreport⟩ :=
    hc.completed hfinish (hcalls _ hdone) hsettled
  have hsliced := ht.sliced (hs.delivers hreads)
  have hperm := Transfer.ordered_perm out.parts
  have hlists : c.config.partSize.Lists content (Transfer.ordered out.parts) :=
    PartSize.lists_of_numbers (hk ▸ (hperm.map Part.number).trans hparts)
  have hputs := hsliced.length_eq.trans (hperm.length_eq.trans hlength)
  refine ⟨report, hx, hrapid, hreport.trans hlength, hk, hputs, ?_, ?_, ?_⟩
  · intro part hp n hn
    refine hsliced.part (Transfer.ordered_sorted out.parts) hlists (hperm.mem_iff.mpr hp) hn ?_
    have := Part.mem_numbers.mp (hparts.mem_iff.mp (List.mem_map_of_mem hp))
    omega
  · intro put hput
    obtain ⟨i, hi⟩ := List.getElem?_of_mem hput
    have hlt := (List.getElem?_eq_some_iff.mp hi).1
    rw [hsliced i] at hi
    obtain ⟨part, -, rfl⟩ := Option.map_eq_some_iff.mp hi
    rw [ne_eq, PartSize.slice_empty_iff]
    omega
  · exact hsliced.whole_iff.mpr (by rw [hperm.length_eq]; omega)

theorem watch_slices_pair : ∃ (report : Report) (out : Outcome),
    (singles.watch pairCall (listing [2, 1])).1 = .ok report ∧ report.partsUploaded = 2 ∧
    out.parts.map Part.number = [2, 1] ∧
    (∀ part ∈ out.parts, ∀ n : Nat, part.number = 1 + (n : Int) →
      (Event.puts (singles.watch pairCall (listing [2, 1])).2)[n]? =
        some (part.url, singles.config.partSize.slice pair.bytes n)) ∧
    ByteArray.join ((Event.puts (singles.watch pairCall (listing [2, 1])).2).map Prod.snd) =
      pair.bytes := by
  obtain ⟨x, hx, h⟩ := Option.bind_eq_some_iff.mp
    (by decide +kernel : (settle (singles.triesRapid pairCall)
        ((Event.creates (singles.watch pairCall (listing [2, 1])).2).map Create.result)).bind
          (fun x => x.toOption.map fun out => (out.stage, out.parts.map Part.number,
            out.session.map fun session => (session.uploadId.isShort, session.fileId.isShort))) =
              some (.transferRequired, [2, 1], some (true, true)))
  obtain ⟨out, hout, hpair⟩ := Option.map_eq_some_iff.mp h
  cases ok_of_toOption hout
  obtain ⟨hstage, hpair⟩ := Prod.mk.inj hpair
  obtain ⟨hparts, hsession⟩ := Prod.mk.inj hpair
  have htold : ∀ session ∈ out.session, session.IsTold := by
    intro session hs
    rw [Option.mem_def.mp hs, Option.map_some] at hsession
    exact Prod.mk.inj (Option.some.inj hsession)
  obtain ⟨report, hrun, -, hsent, -, -, hputs, -, hjoin⟩ := watch_slices (c := singles) (k := 2)
    rfl (reads_pair singles.config.partSize.bytes) rfl hx hstage
    (singles.watch_asks pairCall (listing [2, 1]) (n := 2) rfl) (by rw [hparts]; decide)
    (by decide +kernel) (.inr ⟨⟨by decide, by decide⟩, htold⟩)
  exact ⟨report, out, hrun, hsent, hparts, hputs, hjoin⟩

end Coordinator

end RapidUpload
