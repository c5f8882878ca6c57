import RapidUpload.Proofs.Replies

/-!
# What confirms an upload

An upload whose bytes were sent is reported only once the completion names its file.  One without a
transfer is reported on any answer whose `rapid_upload` is truthy, with whatever id stands there.

* `Report.Confirmed`: the server confirmed what is reported, for a file it named.
* `Coordinator.watch_confirmed`: a report is confirmed but where it is rapid and the last answer
  does not say so by `true`, or names no file.
-/

namespace RapidUpload

variable {ρ α : Type}

/-! ### What the server sent -/

/-- What the server sent by the way a request ended. -/
def Create.sent? (x : Create) : Option Json :=
  match x.result with
  | .ok j => some j
  | .error (.rejected r) => some r.payload
  | .error _ => none

/-- The server gave the id with its answer or its challenge. -/
def Create.Issues (x : Create) (id : Json) : Prop :=
  ∃ sent, x.sent? = some sent ∧ sent.field "file_id" = id

/-- The server confirmed what is reported: the last answer says that it has the content of a file it
names, or the completion of a file that it named names the file again. -/
inductive Report.Confirmed (report : Report) (events : List Event) : Prop where
  | rapid {create : Create} {answer : Json} (hr : report.rapid = true)
    (hid : report.fileId.truthy = true) (hlast : (Event.creates events).getLast? = some create)
    (hanswer : create.result = .ok answer) (htrue : answer.field "rapid_upload" = .bool true)
    (hnamed : answer.field "file_id" = report.fileId)
  | transferred {create : Create} {finish : Finish} {answer : Json} (hr : report.rapid = false)
    (hid : report.fileId.truthy = true) (hcreate : create ∈ Event.creates events)
    (hissued : create.Issues report.fileId) (hfinish : finish.event ∈ events)
    (hfile : finish.fileId = report.fileId) (hanswer : finish.result = .ok answer)
    (hobj : answer.isObj = true) (hnamed : (answer.field "file_id").same report.fileId = true)

/-- An answer that can be read has the id that was sent, where that is one. -/
theorem Answer.fileId_ofJson {j : Json} {answer : Answer} (h : ofJson j = .ok answer) :
    answer.fileId = (j.field "file_id").orElse "" ∧
      answer.rapid = (j.field "rapid_upload").truthy := by
  unfold ofJson at h
  split at h
  · rename_i fields
    dsimp only at h
    cases hp : Part.ofList ((Json.find? "part_info_list" fields).getD .null) with
    | error e =>
      rw [hp] at h
      cases h
    | ok parts =>
      rw [hp] at h
      cases h
      exact ⟨rfl, rfl⟩
  · rename_i hobj
    cases h
    have hfield : ∀ key, j.field key = .null := by
      intro key
      cases j with
      | obj fields => exact absurd rfl (hobj fields)
      | _ => rfl
    rw [hfield, hfield]
    exact ⟨rfl, rfl⟩

theorem Json.orElse_of_truthy {v other : Json} (h : v.truthy = true) : v.orElse other = v :=
  if_pos h

/-- A session goes by two ids that are given. -/
theorem Answer.session_eq_some {answer : Answer} {session : Session}
    (h : answer.session = some session) :
    session.fileId = answer.fileId ∧ answer.fileId.truthy = true := by
  unfold Answer.session at h
  split at h
  · rename_i hids
    cases h
    exact ⟨rfl, (Bool.and_eq_true _ _ ▸ hids).1⟩
  · cases h

theorem Verdict.of_accepted {x : Except Fault Json} {answer : Answer}
    (h : Verdict.of x = .ok (.accepted answer)) :
    ∃ j, x = .ok j ∧ Answer.ofJson j = .ok answer := by
  unfold Verdict.of at h
  split at h
  · rename_i j
    cases ha : Answer.ofJson j <;> rw [ha] at h <;> cases h
    exact ⟨j, rfl, ha⟩
  · split at h <;> cases h
  · cases h

/-- A reply with a session issues its id. -/
theorem CreateReply.issues {x : Create} {reply : CreateReply}
    (h : CreateReply.of x.result = some reply) {session : Session}
    (hs : reply.answer.session = some session) :
    x.Issues session.fileId ∧ session.fileId.truthy = true := by
  obtain ⟨hid, ht⟩ := Answer.session_eq_some hs
  rw [hid]
  have issued : ∀ {sent}, x.sent? = some sent → Answer.ofJson sent = .ok reply.answer →
      x.Issues reply.answer.fileId := by
    intro sent hsent ha
    refine ⟨sent, hsent, ?_⟩
    have hfield := (Answer.fileId_ofJson ha).1
    rw [hfield, Json.orElse] at ht ⊢
    split
    · rfl
    · rename_i hf
      rw [if_neg hf] at ht
      cases ht
  refine ⟨?_, ht⟩
  rcases CreateReply.verdict_of h with ⟨hv, -⟩ | ⟨challenge, hv, ha, -⟩
  · obtain ⟨j, hj, ha⟩ := Verdict.of_accepted hv
    exact issued (by rw [Create.sent?, hj]) ha
  · obtain ⟨r, hr, -, rfl⟩ := Verdict.of_challenged hv
    exact issued (by rw [Create.sent?, hr]) ha

/-! ### What settled the negotiation -/

namespace CreateReply.Yields

variable {stage : Stage} {earlier : Option CreateReply} {last : CreateReply} {out : Outcome}

theorem isRapid (h : last.Yields stage earlier (.ok out)) (hr : out.stage.isRapid = true) :
    last.IsRapid ∧ out.answer = last.answer := by
  have hlast := h.only out rfl hr
  obtain ⟨out', ho, -, ha, -⟩ := h.rapid hlast
  cases ho
  exact ⟨hlast, ha⟩

/-- A transfer goes to the target of the replies. -/
theorem target_eq (h : last.Yields stage earlier (.ok out)) (hr : out.stage.isRapid = false)
    (hstage : stage.isRapid = true) :
    ∃ session, out.session = some session ∧ target earlier last = some (session, out.parts) := by
  have hlast : ¬last.IsRapid := by
    intro hlast
    obtain ⟨out', ho, hst, -⟩ := h.rapid hlast
    cases ho
    rw [hst, hstage] at hr
    cases hr
  cases htarget : target earlier last with
  | none => cases h.nothing hlast htarget
  | some p =>
    cases hshort : p.1.fileId.isShort with
    | false => cases h.unnamed hlast _ _ htarget hshort
    | true =>
      obtain ⟨out', ho, -, hsession, hparts, -⟩ := h.transfer hlast _ _ htarget hshort
      cases ho
      exact ⟨p.1, hsession, by rw [hparts]⟩

/-- A transfer goes into the session of one of the replies. -/
theorem session (h : last.Yields stage earlier (.ok out)) (hr : out.stage.isRapid = false)
    (hstage : stage.isRapid = true) {session : Session} (hs : out.session = some session) :
    ∃ reply, (reply = last ∨ earlier = some reply) ∧ reply.answer.session = some session := by
  obtain ⟨_, hs', htarget⟩ := h.target_eq hr hstage
  cases hs.symm.trans hs'
  generalize out.parts = parts at htarget
  unfold target at htarget
  split at htarget
  · rename_i hown
    cases htarget
    exact ⟨last, .inl rfl, hown⟩
  · rename_i first hown
    obtain ⟨_, hfirst, hp⟩ := Option.map_eq_some_iff.mp htarget
    cases hp
    exact ⟨first, .inr rfl, hfirst⟩
  · cases htarget

end CreateReply.Yields

namespace Negotiator.Comes

variable {n : Negotiator} {mute : Prop} {unprovable : Fault → Prop} {replies : List CreateReply}
  {out : Outcome}

/-- A rapid outcome is that of the last reply, which is rapid. -/
theorem isRapid (h : n.Comes mute unprovable replies (.ok out)) (hr : out.stage.isRapid = true) :
    ∃ last, replies.getLast? = some last ∧ last.IsRapid ∧ out.answer = last.answer := by
  cases h with
  | first _ _ _ hy | second _ _ _ hy | alone _ hy => exact ⟨_, rfl, hy.isRapid hr⟩

theorem session (h : n.Comes mute unprovable replies (.ok out)) (hr : out.stage.isRapid = false)
    {session : Session} (hs : out.session = some session) :
    ∃ reply ∈ replies, reply.answer.session = some session := by
  cases h with
  | first _ _ _ hy | alone _ hy =>
    obtain ⟨reply, rfl | hnone, h⟩ := hy.session hr rfl hs
    · exact ⟨reply, List.mem_cons_self, h⟩
    · cases hnone
  | second _ _ _ hy =>
    obtain ⟨reply, rfl | hsome, h⟩ := hy.session hr rfl hs
    · exact ⟨reply, List.mem_cons_of_mem _ List.mem_cons_self, h⟩
    · cases hsome
      exact ⟨_, List.mem_cons_self, h⟩

end Negotiator.Comes

/-- A verdict that comes to an outcome is a reply that can be read. -/
theorem CreateReply.isSome_of_proof {x : Except Fault Json} {previous : Option Answer}
    {out : Outcome} (h : (Verdict.of x >>= Outcome.ofProof previous) = .ok out) :
    (CreateReply.of x).isSome = true := by
  cases hv : Verdict.of x with
  | error e =>
    rw [hv] at h
    cases h
  | ok verdict =>
    rw [hv] at h
    cases verdict with
    | accepted answer => rw [CreateReply.of_accepted hv]; rfl
    | challenged challenge =>
      change Outcome.ofProof previous (.challenged challenge) = .ok out at h
      cases ha : Answer.ofJson challenge.payload with
      | error e =>
        rw [Outcome.ofProof, ha] at h
        cases h
      | ok answer =>
        rw [CreateReply.of_challenged hv ha]
        rfl

/-- Attempts that settle a negotiation by an outcome have replies that can be read. -/
theorem Handshake.isSome_reply {rapid : Bool} {attempts : List Attempt} {out : Outcome}
    (h : Handshake rapid attempts)
    (hx : settle rapid (attempts.map Attempt.result) = some (.ok out)) :
    ∀ a ∈ attempts, (CreateReply.of a.result).isSome = true := by
  cases h with
  | none => exact fun _ h => nomatch h
  | @sample a h =>
    subst h
    rw [List.forall_mem_singleton]
    cases hv : Verdict.of a.result with
    | error e => cases (settle_error hv).symm.trans hx
    | ok verdict =>
      cases verdict with
      | accepted answer => rw [CreateReply.of_accepted hv]; rfl
      | challenged challenge =>
        cases ha : Answer.ofJson challenge.payload with
        | error e => cases (settle_unreadable hv ha).symm.trans hx
        | ok answer => cases (settle_challenged hv ha).symm.trans hx
  | full h =>
    subst h
    exact List.forall_mem_singleton.mpr (CreateReply.isSome_of_proof (Option.some.inj hx))
  | both h _ hc hp =>
    subst h
    refine List.forall_mem_cons.mpr ⟨?_, List.forall_mem_singleton.mpr
      (CreateReply.isSome_of_proof (Option.some.inj ((settle_both hc hp).symm.trans hx)))⟩
    rw [CreateReply.of_challenged hc hp]
    rfl

/-- Attempts that settle a negotiation by an outcome have replies that come to it. -/
theorem Handshake.replies {n : Negotiator} {attempts : List Attempt} {out : Outcome}
    (h : Handshake n.rapid attempts)
    (hx : settle n.rapid (attempts.map Attempt.result) = some (.ok out)) :
    ∃ replies, attempts.map (fun a => CreateReply.of a.result) = replies.map some ∧
      n.Comes False (fun _ => False) replies (.ok out) := by
  obtain ⟨replies, hmap, hcomes, -⟩ :=
    Negotiator.comes_of_handshake h (h.isSome_reply hx) False (fun _ _ => not_false) fun _ => False
  exact ⟨replies, hmap, hcomes _ hx⟩

/-! ### Reports -/

/-- The last request was accepted by an answer that says `true` and names a file. -/
def Event.SaysRapid (events : List Event) : Prop :=
  ∃ create answer, (creates events).getLast? = some create ∧ create.result = .ok answer ∧
    answer.field "rapid_upload" = .bool true ∧ (answer.field "file_id").truthy = true

theorem Session.confirmed_ok {session : Session} {answer : Except Fault Json} {j : Json}
    (h : session.confirmed answer = .ok j) :
    answer = .ok j ∧ (j.field "file_id").same session.fileId = true := by
  cases answer with
  | error e => cases h
  | ok j' =>
    cases ht : (j'.field "file_id").told with
    | error e =>
      simp only [confirmed, bind, Except.bind, ht] at h
      cases h
    | ok told =>
      simp only [confirmed, bind, Except.bind, ht] at h
      split at h
      · rename_i hc
        cases h
        exact ⟨rfl, hc⟩
      · cases h

theorem Json.eq_null_of_same {v : Json} (h : Json.null.same v = true) : v = .null := by
  cases v with
  | null => rfl
  | _ => cases h

/-- Only an object has a field that equals a value other than null. -/
theorem Json.isObj_of_same {j v : Json} {key : String} (h : (j.field key).same v = true)
    (hv : v.truthy = true) : j.isObj = true := by
  cases j with
  | obj fields => rfl
  | _ =>
    cases Json.eq_null_of_same h
    cases hv

variable [Reader ρ] {limits : FileLimits} {c : Coordinator} {call : UploadCall ρ α} {calls : Calls}
  {report : Report}

/-- A rapid report is that of the last answer, which was accepted. -/
theorem Handshake.last_answer {rapid : Bool} {attempts : List Attempt} {out : Outcome}
    (h : Handshake rapid attempts)
    (hx : settle rapid (attempts.map Attempt.result) = some (.ok out))
    (hr : out.stage.isRapid = true) {a : Attempt} (ha : attempts.getLast? = some a) :
    ∃ j, a.result = .ok j ∧ Answer.ofJson j = .ok out.answer := by
  obtain ⟨replies, hmap, hcomes⟩ := h.replies (n := ⟨rapid, .standard⟩) hx
  obtain ⟨last, hlast, ⟨hacc, -⟩, hanswer⟩ := hcomes.isRapid hr
  have hreply := congrArg List.getLast? hmap
  rw [List.getLast?_map, List.getLast?_map, ha, hlast] at hreply
  rcases CreateReply.verdict_of (Option.some.inj hreply) with ⟨hv, -⟩ | ⟨-, -, -, hno⟩
  · rw [hanswer]
    exact Verdict.of_accepted hv
  · rw [hacc] at hno
    cases hno

/-- The session of a transfer was issued by the server. -/
theorem Handshake.issues {rapid : Bool} {attempts : List Attempt} {out : Outcome}
    (h : Handshake rapid attempts)
    (hx : settle rapid (attempts.map Attempt.result) = some (.ok out))
    (hr : out.stage.isRapid = false) {session : Session} (hs : out.session = some session)
    (request : Request) :
    session.fileId.truthy = true ∧
      ∃ create ∈ attempts.map (Attempt.create request), create.Issues session.fileId := by
  obtain ⟨replies, hmap, hcomes⟩ := h.replies (n := ⟨rapid, .standard⟩) hx
  obtain ⟨reply, hreply, hsession⟩ := hcomes.session hr hs
  have hm := List.mem_map_of_mem (f := some) hreply
  rw [← hmap] at hm
  obtain ⟨a, ha, ho⟩ := List.mem_map.mp hm
  obtain ⟨hissues, htruthy⟩ := CreateReply.issues (x := a.create request) ho hsession
  exact ⟨htruthy, _, List.mem_map_of_mem ha, hissues⟩

/-- **What is confirmed.**  A report of a transfer is confirmed.  A rapid one is exactly where the
last answer says `true` and names a file, which nothing makes sure of. -/
theorem Conduct.confirmed_iff (h : Conduct limits c call calls (.ok report)) :
    report.Confirmed calls.events ↔ (report.rapid = true → Event.SaysRapid calls.events) := by
  unfold Event.SaysRapid
  rw [calls.creates_events]
  generalize hy : Except.ok report = y at h
  cases h with
  | unopened | unsettled | interrupted | unnamed => cases hy
  | @rapid source attempts out hs hh hx hr =>
    cases hy
    refine ⟨fun hc _ => ?_, fun hsays => ?_⟩
    · cases hc with
      | rapid _ hid hlast hanswer htrue hnamed =>
        rw [Calls.creates_events] at hlast
        exact ⟨_, _, hlast, hanswer, htrue, hnamed ▸ hid⟩
      | transferred hrapid => cases hrapid
    · obtain ⟨create, answer, hlast, hanswer, htrue, hid⟩ := hsays rfl
      have hlast' := hlast
      rw [List.getLast?_map] at hlast'
      obtain ⟨a, ha, rfl⟩ := Option.map_eq_some_iff.mp hlast'
      obtain ⟨j, hj, hout⟩ := hh.last_answer hx hr ha
      cases hj.symm.trans hanswer
      have hfile : out.answer.fileId = answer.field "file_id" :=
        (Answer.fileId_ofJson hout).1.trans (Json.orElse_of_truthy hid)
      refine .rapid rfl (by rwa [hfile]) ?_ hanswer htrue hfile.symm
      rw [Calls.creates_events]
      exact hlast
  | @transferred source attempts out rounds session answer x hs hh hx hr hsession ht ha =>
    subst hy
    obtain ⟨j, hj, hreport⟩ : ∃ j, session.confirmed answer = .ok j ∧
        report = ⟨session.fileId, source.name, source.size, false, out.parts.length, j⟩ := by
      cases hc : session.confirmed answer with
      | error e =>
        rw [hc] at ha
        cases ha
      | ok j =>
        rw [hc] at ha
        cases ha
        exact ⟨j, rfl, rfl⟩
    subst hreport
    obtain ⟨hanswer, hsame⟩ := Session.confirmed_ok hj
    obtain ⟨hid, create, hcreate, hissued⟩ :=
      hh.issues hx hr hsession (c.request call.parentId source)
    refine ⟨fun _ hrapid => (nomatch hrapid), fun _ => ?_⟩
    have hfinish : Finish.event ⟨c.driveId, session.fileId, session.uploadId, answer⟩ ∈
        Calls.events ⟨attempts.map (Attempt.create (c.request call.parentId source)), rounds,
          some ⟨c.driveId, session.fileId, session.uploadId, answer⟩⟩ :=
      List.mem_append_right _ List.mem_cons_self
    refine .transferred rfl hid ?_ hissued hfinish rfl hanswer (Json.isObj_of_same hsame hid) hsame
    rw [Calls.creates_events]
    exact hcreate

/-- **What an upload reports is confirmed** where its bytes were sent, and else exactly where the
last answer says `true` and names a file. -/
theorem Coordinator.watch_confirmed [DriveService α] {s : Logged (Site α)}
    (hrun : (c.watch call s).1 = .ok report) :
    report.Confirmed (c.watch call s).2 ↔
      (report.rapid = true → Event.SaysRapid (c.watch call s).2) := by
  obtain ⟨calls, hc, he⟩ := c.watch_conduct call s
  rw [hrun] at hc
  rw [he]
  exact hc.confirmed_iff

namespace Coordinator

open Rehearsal

theorem watch_confirmed_pair : ∃ report : Report,
    (singles.watch pairCall (listing [2, 1])).1 = .ok report ∧
      report.Confirmed (singles.watch pairCall (listing [2, 1])).2 := by
  obtain ⟨report, hreport, hrapid⟩ := Option.map_eq_some_iff.mp
    (by decide +kernel :
      (singles.watch pairCall (listing [2, 1])).1.toOption.map Report.rapid = some false)
  have hrun := ok_of_toOption hreport
  exact ⟨report, hrun, (watch_confirmed hrun).mpr fun h => by rw [hrapid] at h; cases h⟩

/-- An answer that names no file is reported as a rapid upload of a file without an id. -/
theorem watch_unconfirmed :
    let server : Logged (Site Script) :=
      ⟨⟨⟨none, "drive", [⟨none, .ok rapidAnswer⟩], none, []⟩, roomy⟩, #[]⟩
    ∃ report : Report, (pairs.watch pairCall server).1 = .ok report ∧ report.rapid = true ∧
      report.fileId.truthy = false ∧ ¬report.Confirmed (pairs.watch pairCall server).2 := by
  intro server
  obtain ⟨report, hreport, hpair⟩ := Option.map_eq_some_iff.mp
    (by decide +kernel : (pairs.watch pairCall server).1.toOption.map
      (fun report => (report.rapid, report.fileId.truthy)) = some (true, false))
  obtain ⟨hrapid, hid⟩ := Prod.mk.inj hpair
  refine ⟨report, ok_of_toOption hreport, hrapid, hid, fun h => ?_⟩
  cases h with
  | rapid _ htruthy | transferred _ htruthy =>
    rw [hid] at htruthy
    cases htruthy

end Coordinator

end RapidUpload
