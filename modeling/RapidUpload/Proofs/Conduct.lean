import RapidUpload.Proofs.Course
import RapidUpload.Proofs.Exchange
import RapidUpload.Proofs.Opening

/-!
# The conduct of an upload

All that an upload can do, whatever its source, the server and the caller's callback do: it asks,
goes part by part, and completes, and it ends where something fails.

* `Calls`: the calls of an upload in their three stages.
* `Conduct`: the calls an upload makes and what it ends in, case by case.
* `Coordinator.watch_conduct`: each upload is such a case.
-/

namespace RapidUpload

open Step

variable {ρ α : Type}

/-! ### Calls -/

/-- A completion: what was named, and how it ended. -/
structure Finish where
  driveId : Json
  fileId : Json
  uploadId : Json
  result : Except Fault Json

/-- The calls of an upload: the requests to create it, the rounds of the transfer, and the
completion. -/
structure Calls where
  creates : List Create
  rounds : List Round
  completion : Option Finish

namespace Event

/-- What was sent to addresses among some calls: the address and the bytes. -/
def puts (events : List Event) : List (Json × ByteArray) :=
  events.filterMap fun
    | .put url bytes _ => some (url, bytes)
    | _ => none

end Event

/-- The call of a completion. -/
def Finish.event (x : Finish) : Event := .complete x.driveId x.fileId x.uploadId x.result

namespace Calls

/-- The calls one after the other. -/
def events (x : Calls) : List Event :=
  x.creates.map Create.event ++ x.rounds.flatMap Round.events ++
    (x.completion.map Finish.event).toList

theorem events_attempts (request : Request) (attempts : List Attempt) (rounds : List Round)
    (completion : Option Finish) :
    events ⟨attempts.map (Attempt.create request), rounds, completion⟩ =
      attempts.map (Attempt.event request) ++ rounds.flatMap Round.events ++
        (completion.map Finish.event).toList := by
  rw [events, List.map_map]
  rfl

theorem creates_rounds (rounds : List Round) :
    Event.creates (rounds.flatMap Round.events) = [] := by
  rw [Event.creates, List.filterMap_eq_nil_iff]
  intro event he
  obtain ⟨y, -, he⟩ := List.mem_flatMap.mp he
  rcases List.mem_cons.mp he with rfl | he
  · rfl
  · obtain ⟨p, -, rfl⟩ := Option.map_eq_some_iff.mp (Option.mem_toList.mp he)
    rfl

theorem puts_rounds (rounds : List Round) :
    Event.puts (rounds.flatMap Round.events) = rounds.map fun y => (y.url, y.bytes) := by
  induction rounds with
  | nil => rfl
  | cons y rounds ih =>
    obtain ⟨url, bytes, sent, told⟩ := y
    rw [List.flatMap_cons, Event.puts, List.filterMap_append, ← Event.puts, ← Event.puts, ih]
    cases told <;> rfl

theorem creates_events (x : Calls) : Event.creates x.events = x.creates := by
  obtain ⟨creates, rounds, completion⟩ := x
  rw [events, Event.creates, List.filterMap_append, List.filterMap_append, ← Event.creates,
    ← Event.creates, ← Event.creates, Event.creates_map_event, creates_rounds]
  cases completion <;> simp [Event.creates, Finish.event]

theorem puts_events (x : Calls) :
    Event.puts x.events = x.rounds.map fun y => (y.url, y.bytes) := by
  obtain ⟨creates, rounds, completion⟩ := x
  have hc : Event.puts (creates.map Create.event) = [] := by
    rw [Event.puts, List.filterMap_eq_nil_iff]
    intro event he
    obtain ⟨y, -, rfl⟩ := List.mem_map.mp he
    rfl
  rw [events, Event.puts, List.filterMap_append, List.filterMap_append, ← Event.puts,
    ← Event.puts, ← Event.puts, hc, puts_rounds]
  cases completion <;> simp [Event.puts, Finish.event]

end Calls

/-! ### Transfers from where the bytes are -/

/-- A transfer of what a stream delivers, part by part, from the stream or from a copy. -/
inductive Transfers [Reader ρ] (limits : FileLimits) (size : PartSize) (tells : Nat → Option Int)
    (parts : List Part) (stream : ρ) : List Round → Except Fault Unit → Prop where
  | unsized {e : Fault} (h : Size.megabytes 1 (parts.length * size.bytes) = .error e) :
    Transfers limits size tells parts stream [] (.error e)
  | course {π : Type} [Reader π] {r : π} {rounds : List Round} {x : Except Fault Unit}
    (hc : Course size tells (Transfer.ordered parts) 0 r rounds x)
    (hd : ∀ {limit content}, Delivers limit stream content →
      Delivers (min limit limits.largest) r content) :
    Transfers limits size tells parts stream rounds x

/-! ### Uploads -/

/-- The ids of a session can be told of. -/
def Session.IsTold (session : Session) : Prop :=
  session.uploadId.isShort = true ∧ session.fileId.isShort = true

/-- What an answer to the completion comes to: it must name the file of the session, and what it
names must have a text to be told of. -/
def Session.confirmed (session : Session) (answer : Except Fault Json) : Except Fault Json := do
  let answer ← answer
  let _ ← (answer.field "file_id").told
  if Completion.confirms session answer then .ok answer
  else .error (MismatchCause.unconfirmed.fault answer session.fileId)

namespace Coordinator

/-- Samples are tried in an upload, by the call or else by the settings. -/
def triesRapid (c : Coordinator) (call : UploadCall ρ α) : Bool :=
  call.rapid.getD c.config.rapid

/-- What an upload tells after so many parts of the size that was declared. -/
def tells (c : Coordinator) (call : UploadCall ρ α) (size : Nat) : Nat → Option Int :=
  Transfer.tells call.progress (c.plan.plan size).length

end Coordinator

/-- The calls an upload makes, and what it ends in. -/
inductive Conduct [Reader ρ] (limits : FileLimits) (c : Coordinator) (call : UploadCall ρ α) :
    Calls → Except Fault Report → Prop where
  /-- The source does not open. -/
  | unopened {e : Fault} : Conduct limits c call ⟨[], [], none⟩ (.error e)
  /-- The negotiation fails. -/
  | unsettled {source : Source ρ} {attempts : List Attempt} {e : Fault}
    (hs : source.Holds call.size call.origin) (hh : Handshake (c.triesRapid call) attempts)
    (hx : ∀ x, settle (c.triesRapid call) (attempts.map Attempt.result) = some x → x = .error e) :
    Conduct limits c call
      ⟨attempts.map (Attempt.create (c.request call.parentId source)), [], none⟩ (.error e)
  /-- The server has the content. -/
  | rapid {source : Source ρ} {attempts : List Attempt} {out : Outcome}
    (hs : source.Holds call.size call.origin) (hh : Handshake (c.triesRapid call) attempts)
    (hx : settle (c.triesRapid call) (attempts.map Attempt.result) = some (.ok out))
    (hr : out.stage.isRapid = true) :
    Conduct limits c call
      ⟨attempts.map (Attempt.create (c.request call.parentId source)), [], none⟩
      (.ok ⟨out.answer.fileId, source.name, source.size, true, 0, out.answer.raw⟩)
  /-- The transfer fails. -/
  | interrupted {source : Source ρ} {attempts : List Attempt} {out : Outcome} {rounds : List Round}
    {e : Fault} (hs : source.Holds call.size call.origin)
    (hh : Handshake (c.triesRapid call) attempts)
    (hx : settle (c.triesRapid call) (attempts.map Attempt.result) = some (.ok out))
    (hr : out.stage.isRapid = false)
    (ht : Transfers limits c.config.partSize (c.tells call source.size) out.parts source.stream
      rounds (.error e)) :
    Conduct limits c call
      ⟨attempts.map (Attempt.create (c.request call.parentId source)), rounds, none⟩ (.error e)
  /-- All parts are sent, but the session cannot be told of. -/
  | unnamed {source : Source ρ} {attempts : List Attempt} {out : Outcome} {rounds : List Round}
    {session : Session} (hs : source.Holds call.size call.origin)
    (hh : Handshake (c.triesRapid call) attempts)
    (hx : settle (c.triesRapid call) (attempts.map Attempt.result) = some (.ok out))
    (hr : out.stage.isRapid = false) (hsession : out.session = some session)
    (ht : Transfers limits c.config.partSize (c.tells call source.size) out.parts source.stream
      rounds (.ok ()))
    (hn : ¬session.IsTold) :
    Conduct limits c call
      ⟨attempts.map (Attempt.create (c.request call.parentId source)), rounds, none⟩
      (.error (.undefined .longInteger))
  /-- All parts are sent, and the upload is completed or fails to be. -/
  | transferred {source : Source ρ} {attempts : List Attempt} {out : Outcome} {rounds : List Round}
    {session : Session} {answer : Except Fault Json} {x : Except Fault Report}
    (hs : source.Holds call.size call.origin)
    (hh : Handshake (c.triesRapid call) attempts)
    (hx : settle (c.triesRapid call) (attempts.map Attempt.result) = some (.ok out))
    (hr : out.stage.isRapid = false) (hsession : out.session = some session)
    (ht : Transfers limits c.config.partSize (c.tells call source.size) out.parts source.stream
      rounds (.ok ()))
    (ha : x = (session.confirmed answer).map fun j =>
      ⟨session.fileId, source.name, source.size, false, out.parts.length, j⟩) :
    Conduct limits c call
      ⟨attempts.map (Attempt.create (c.request call.parentId source)), rounds,
        some ⟨c.driveId, session.fileId, session.uploadId, answer⟩⟩ x

/-! ### Every upload -/

/-- The site once a scene has been cleaned up. -/
def Site.closed (t : Logged (Scene ρ α)) : Logged (Site α) :=
  let spill := Spill.cleanup ⟨t.state.spill, t.log⟩
  ⟨⟨t.state.service, spill.state.disk⟩, spill.log⟩

/-- An action on a scene ends as it does there, and then the scene is cleaned up. -/
theorem Site.ends_withScene {β : Type} {folder : Option String} {stream : ρ}
    {body : Act (Scene ρ α) β} {s : Logged (Site α)} {Q : β → Logged (Site α) → Prop}
    {E : Fault → Logged (Site α) → Prop} :
    Ends (withScene folder stream body) s Q E ↔
      Ends body
        ⟨⟨.bare stream, s.state.service, .new s.state.disk folder, .prehashPending⟩, s.log⟩
        (fun b t => Q b (closed t)) (fun e t => E e (closed t)) := by
  simp only [Ends, withScene]
  cases body _ <;> rfl

/-- Completing is one call, and comes to what its answer does, unless the session cannot be told
of. -/
theorem Completion.complete_ends [DriveService α] (driveId : Json) (session : Session)
    (s : Logged (Watched α)) :
    Ends (complete driveId session) s
      (fun j t => ∃ answer, session.confirmed answer = .ok j ∧ t.state.events =
        s.state.events ++ [.complete driveId session.fileId session.uploadId answer])
      (fun e t => (¬session.IsTold ∧ e = .undefined .longInteger ∧ t.state = s.state) ∨
        ∃ answer, session.confirmed answer = .error e ∧ t.state.events =
          s.state.events ++ [.complete driveId session.fileId session.uploadId answer]) := by
  unfold complete
  have unnamed : ∀ {v : Json} {e : Fault}, (session.IsTold → v.isShort = true) →
      v.told = .error e → ¬session.IsTold ∧ e = .undefined .longInteger := by
    intro v e hv he
    obtain ⟨hlong, rfl⟩ := Json.told_error he
    refine ⟨fun htold => ?_, rfl⟩
    rw [hv htold] at hlong
    cases hlong
  rw [ends_bind, ends_ofExcept]
  refine ⟨fun uploadId _ => ?_, fun e he => ?_⟩
  rotate_left
  · obtain ⟨hn, rfl⟩ := unnamed And.left he
    exact .inl ⟨hn, rfl, rfl⟩
  rw [ends_bind, ends_ofExcept]
  refine ⟨fun fileId _ => ?_, fun e he => ?_⟩
  rotate_left
  · obtain ⟨hn, rfl⟩ := unnamed And.right he
    exact .inl ⟨hn, rfl, rfl⟩
  rw [ends_bind, ends_tell, ends_bind]
  refine Watched.ends_note ?_ fun e service log => .inr ⟨.error e, rfl, rfl⟩
  intro j service log
  dsimp only
  rw [ends_bind, ends_ofExcept]
  constructor
  · intro told htold
    have hconfirmed : session.confirmed (.ok j) = if confirms session j then .ok j
        else .error (MismatchCause.unconfirmed.fault j session.fileId) := by
      show ((j.field "file_id").told >>= fun _ => _) = _
      rw [htold]
      rfl
    split
    · rename_i hc
      rw [ends_bind, ends_tell, ends_pure]
      exact ⟨.ok j, hconfirmed.trans (if_pos hc), rfl⟩
    · rename_i hc
      rw [ends_bind, ends_tell, ends_fail]
      exact .inr ⟨.ok j, hconfirmed.trans (if_neg hc), rfl⟩
  · intro e he
    refine .inr ⟨.ok j, ?_, rfl⟩
    show ((j.field "file_id").told >>= fun _ => _) = _
    rw [he]
    rfl

namespace Coordinator

variable [Reader ρ] [DriveService α]

/-- A transfer from a part of the scene that delivers what the stream does. -/
theorem transferFrom_ends {π : Type} [Reader π] (f : Focus (Scene ρ (Watched α)) π)
    (size : PartSize) (parts : List Part) (count : Int) (progress : Option (Progress α))
    (limits : FileLimits) (stream : ρ) (s : Logged (Scene ρ (Watched α)))
    (hd : ∀ {limit content}, Delivers limit stream content →
      Delivers (min limit limits.largest) (f.get s.state) content) :
    Ends (Act.within (f.both Scene.theService)
        (Transfer.run size parts count (progress.map Watched.progress))) s
      (fun m t => m = parts.length ∧ ∃ rounds,
        Transfers limits size (Transfer.tells progress count) parts stream rounds (.ok ()) ∧
        t.state.service.events = s.state.service.events ++ rounds.flatMap Round.events)
      (fun e t => ∃ rounds,
        Transfers limits size (Transfer.tells progress count) parts stream rounds (.error e) ∧
        t.state.service.events = s.state.service.events ++ rounds.flatMap Round.events) := by
  rw [ends_part]
  refine (Transfer.run_ends size parts count progress _).mono ?_ ?_
  · rintro m t ⟨hm, rounds, hc, ht⟩
    exact ⟨hm, rounds, .course hc hd, ht⟩
  · rintro e ⟨t, log⟩ (⟨he, rfl⟩ | ⟨rounds, hc, ht⟩)
    · exact ⟨[], .unsized he, (List.append_nil _).symm⟩
    · exact ⟨rounds, .course hc hd, ht⟩

/-- A transfer goes over what the stream delivers, from where the bytes are. -/
theorem transfer_ends (c : Coordinator) {out : Outcome} {supply : Supply} (count : Nat)
    (progress : Option (Progress α)) (limits : FileLimits) (stream : ρ)
    (s : Logged (Scene ρ (Watched α))) (hs : out.supply = some supply)
    (hd : ∀ {limit content}, Delivers limit stream content →
      Negotiator.Supplies s.state limits limit content supply) :
    Ends (c.transfer out count (progress.map Watched.progress)) s
      (fun m t => m = out.parts.length ∧ ∃ rounds,
        Transfers limits c.config.partSize (Transfer.tells progress count) out.parts stream rounds
          (.ok ()) ∧
        t.state.service.events = s.state.service.events ++ rounds.flatMap Round.events)
      (fun e t => ∃ rounds,
        Transfers limits c.config.partSize (Transfer.tells progress count) out.parts stream rounds
          (.error e) ∧
        t.state.service.events = s.state.service.events ++ rounds.flatMap Round.events) := by
  unfold transfer
  rw [hs]
  cases supply with
  | replay =>
    exact transferFrom_ends Scene.theStream _ _ _ _ _ _ _ fun h => (hd h).anti (Nat.min_le_left _ _)
  | spill =>
    exact transferFrom_ends Scene.theSpill _ _ _ _ _ _ _ fun h => (hd h).anti (Nat.min_le_right _ _)

/-- What delivering does: the attempts of the negotiation, the rounds of the transfer where there is
one, and the outcome that is carried out. -/
inductive Delivery (limits : FileLimits) (rapid : Bool) (size : PartSize)
    (tells : Nat → Option Int) (stream : ρ) :
    List Attempt → List Round → Except Fault Outcome → Prop where
  | unsettled {attempts : List Attempt} {e : Fault} (hh : Handshake rapid attempts)
    (hx : ∀ x, settle rapid (attempts.map Attempt.result) = some x → x = .error e) :
    Delivery limits rapid size tells stream attempts [] (.error e)
  | rapid {attempts : List Attempt} {out : Outcome} (hh : Handshake rapid attempts)
    (hx : settle rapid (attempts.map Attempt.result) = some (.ok out))
    (hr : out.stage.isRapid = true) : Delivery limits rapid size tells stream attempts [] (.ok out)
  | interrupted {attempts : List Attempt} {out : Outcome} {rounds : List Round} {e : Fault}
    (hh : Handshake rapid attempts)
    (hx : settle rapid (attempts.map Attempt.result) = some (.ok out))
    (hr : out.stage.isRapid = false)
    (ht : Transfers limits size tells out.parts stream rounds (.error e)) :
    Delivery limits rapid size tells stream attempts rounds (.error e)
  | transferred {attempts : List Attempt} {out : Outcome} {rounds : List Round}
    (hh : Handshake rapid attempts)
    (hx : settle rapid (attempts.map Attempt.result) = some (.ok out))
    (hr : out.stage.isRapid = false)
    (ht : Transfers limits size tells out.parts stream rounds (.ok ())) :
    Delivery limits rapid size tells stream attempts rounds (.ok out)

/-- **Delivering.**  What the attempts come to is carried out: bytes are sent only where the server
wants them, and then part by part. -/
theorem deliver_ends (c : Coordinator) (rapid : Bool) (request : Request) (stream : ρ)
    (progress : Option (Progress α)) (s : Logged (Scene ρ (Watched α)))
    (hs : s.state.spill.handle = none) :
    Ends (c.deliver rapid request stream (progress.map Watched.progress)) s
      (fun p t => ∃ attempts rounds,
        Delivery s.state.spill.disk.limits rapid c.config.partSize
          (Transfer.tells progress request.parts.length) stream attempts rounds (.ok p.1) ∧
        (p.1.stage.isRapid = false → p.2 = p.1.parts.length) ∧
        t.state.service.events = s.state.service.events ++
          attempts.map (Attempt.event request) ++ rounds.flatMap Round.events)
      (fun e t => ∃ attempts rounds,
        Delivery s.state.spill.disk.limits rapid c.config.partSize
          (Transfer.tells progress request.parts.length) stream attempts rounds (.error e) ∧
        t.state.service.events = s.state.service.events ++
          attempts.map (Attempt.event request) ++ rounds.flatMap Round.events) := by
  unfold deliver
  rw [ends_bind]
  refine (Negotiator.negotiate_ends request s _ stream hs).mono ?_ ?_
  · rintro out ⟨t, log⟩ ⟨⟨xs, hend⟩, hsup⟩
    obtain ⟨hn, hx⟩ := hend.settles
    have ht := hn.chain.events
    have hh := hn.handshake
    generalize xs.map Exchange.toAttempt = attempts at ht hh hx
    dsimp only at ht hx
    split
    · rename_i hr
      rw [ends_bind, ends_tell, ends_pure]
      refine ⟨attempts, [], .rapid hh hx hr, fun hn => ?_, ht.trans (List.append_nil _).symm⟩
      rw [hr] at hn
      cases hn
    · rename_i hr
      rw [Bool.not_eq_true] at hr
      -- an outcome that is not rapid came with the place where its bytes are
      obtain ⟨answer, supply, hinto⟩ := settle_ok hx hr
      have hsupply : out.supply = some supply := by
        obtain ⟨session, -, rfl⟩ := Outcome.into_ok hinto
        rfl
      rw [ends_bind]
      refine (c.transfer_ends request.parts.length progress _ stream ⟨t, log⟩ hsupply
        (hsup supply hsupply)).mono ?_ ?_
      · rintro m t' ⟨rfl, rounds, hc, ht'⟩
        exact ends_pure.mpr ⟨attempts, rounds, .transferred hh hx hr hc, fun _ => rfl,
          ht'.trans (by rw [ht])⟩
      · rintro e t' ⟨rounds, hc, ht'⟩
        exact ⟨attempts, rounds, .interrupted hh hx hr hc, ht'.trans (by rw [ht])⟩
  · rintro e t ⟨xs, hend⟩
    exact ⟨xs.map Exchange.toAttempt, [], .unsettled hend.negotiation.handshake hend.failed,
      hend.negotiation.chain.events.trans (List.append_nil _).symm⟩

/-- The calls of the stages add up. -/
theorem events_upload {before sent after : List Event} {request : Request}
    {attempts : List Attempt} {rounds : List Round} {completion : Option Finish}
    (hs : sent = before ++ attempts.map (Attempt.event request) ++ rounds.flatMap Round.events)
    (ha : after = sent ++ (completion.map Finish.event).toList) :
    after = before ++
      Calls.events ⟨attempts.map (Attempt.create request), rounds, completion⟩ := by
  rw [ha, hs, Calls.events_attempts]
  simp only [List.append_assoc]

/-- **An upload** over a watched service makes the calls of a case, and ends as it does. -/
theorem upload_ends (c : Coordinator) (call : UploadCall ρ α) (s : Logged (Site (Watched α))) :
    Ends (c.upload call.watched) s
      (fun report t => ∃ calls, Conduct s.state.disk.limits c call calls (.ok report) ∧
        t.state.service.events = s.state.service.events ++ calls.events)
      (fun e t => ∃ calls, Conduct s.state.disk.limits c call calls (.error e) ∧
        t.state.service.events = s.state.service.events ++ calls.events) := by
  have stopped : ∀ {e : Fault} {t : Logged (Site (Watched α))}, t.state = s.state →
      ∃ calls, Conduct s.state.disk.limits c call calls (.error e) ∧
        t.state.service.events = s.state.service.events ++ calls.events := fun ht =>
    ⟨_, .unopened, by rw [ht]; exact (List.append_nil _).symm⟩
  unfold upload
  dsimp only
  rw [ends_bind, ends_look, ends_bind]
  refine (Source.enter_ends _ _ _ _ s).mono ?_ fun e t ht => stopped ht
  rintro source t ⟨ht, hsource⟩
  rw [ends_bind, ends_ofExcept]
  refine ⟨fun size _ => ?_, fun e _ => stopped ht⟩
  rw [ends_bind, ends_tell, ends_bind]
  refine Site.ends_withScene.mpr
    ((c.deliver_ends _ _ source.stream call.progress _ rfl).mono ?_ ?_)
  · rintro ⟨out, sent⟩ t' ⟨attempts, rounds, hd, hsent, hev⟩
    dsimp only at hd hsent hev ⊢
    rw [ht] at hd hev
    cases hd with
    | rapid hh hx hr =>
      rw [hr]
      exact ends_pure.mpr ⟨_, .rapid hsource hh hx hr, events_upload hev (List.append_nil _).symm⟩
    | transferred hh hx hr hc =>
      cases hsent hr
      obtain ⟨answer, supply, hinto⟩ := settle_ok hx hr
      obtain ⟨session, -, rfl⟩ := Outcome.into_ok hinto
      rw [hr]
      dsimp only
      rw [ends_bind, ends_part]
      -- the completion is the last call, and decides how the upload ends
      refine (Completion.complete_ends c.driveId session _).mono ?_ ?_
      · rintro j t'' ⟨answer, hj, ht''⟩
        rw [ends_bind, ends_tell, ends_pure]
        exact ⟨_, .transferred hsource hh hx hr rfl hc (by rw [hj]; rfl),
          events_upload hev ht''⟩
      · rintro e t'' (⟨hn, rfl, ht''⟩ | ⟨answer, hj, ht''⟩)
        · refine ⟨_, .unnamed hsource hh hx hr rfl hc hn, events_upload hev ?_⟩
          exact (congrArg Watched.events ht'').trans (List.append_nil _).symm
        exact ⟨_, .transferred hsource hh hx hr rfl hc (by rw [hj]; rfl),
          events_upload hev ht''⟩
  · rintro e t' ⟨attempts, rounds, hd, hev⟩
    dsimp only at hd hev ⊢
    rw [ht] at hd hev
    cases hd with
    | unsettled hh hx =>
      exact ⟨_, .unsettled hsource hh hx, events_upload hev (List.append_nil _).symm⟩
    | interrupted hh hx hr hc =>
      exact ⟨_, .interrupted hsource hh hx hr hc, events_upload hev (List.append_nil _).symm⟩

/-- **The conduct of every upload.**  Whatever the source, the service and the callback do, the
calls are those of one of the cases, and the upload ends as it says. -/
theorem watch_conduct (c : Coordinator) (call : UploadCall ρ α) (s : Logged (Site α)) :
    ∃ calls, Conduct s.state.disk.limits c call calls (c.watch call s).1 ∧
      (c.watch call s).2 = calls.events := by
  have h := upload_ends c call ⟨⟨⟨s.state.service, []⟩, s.state.disk⟩, s.log⟩
  unfold watch
  cases hr : c.upload call.watched ⟨⟨⟨s.state.service, []⟩, s.state.disk⟩, s.log⟩ with
  | ok report t => exact ends_of_ok h hr
  | error e t => exact ends_of_error h hr

end Coordinator

end RapidUpload
