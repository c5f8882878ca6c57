import RapidUpload.Proofs.Blocks
import RapidUpload.Proofs.Independence
import RapidUpload.Proofs.Mapping
import RapidUpload.Proofs.Overheard

/-!
# The drive that is named

A client posts for a drive in four ways: it creates an upload, completes one, and previews a
document or a video.  The body of each names the drive, and an upload names one drive in all that it
posts.

* `Json.NamesDrive`: a body names a drive, and no other.
* `HttpClient.Names`: a post for a drive; it is never a lookup.
* `HttpClient.Sends`: what a client posts on the way from one state to another.
* `Coordinator.upload_sends`: all that an upload posts names the drive of its coordinator.
-/

namespace RapidUpload

open Step

variable {ρ α β τ : Type}

/-! ### Posts for a drive -/

/-- The value is an object that names the drive, and no other one. -/
def Json.NamesDrive (v drive : Json) : Prop :=
  ∃ fields, v = .obj fields ∧ ∀ w, ("drive_id", w) ∈ fields ↔ w = drive

/-- A drive that stands first is named where no other field goes by its key. -/
theorem Json.namesDrive_obj {drive : Json} {fields : List (String × Json)}
    (h : ∀ w, ("drive_id", w) ∉ fields) :
    (Json.obj (("drive_id", drive) :: fields)).NamesDrive drive :=
  ⟨_, rfl, fun w => by simp [h w]⟩

/-- The body of a request names its drive, whatever evidence is shown. -/
theorem Request.namesDrive_body (r : Request) (evidence : Option Evidence) :
    (r.body evidence).NamesDrive r.driveId := by
  refine ⟨_, rfl, fun w => ?_⟩
  have hevidence : ("drive_id", w) ∉ (evidence.map Evidence.fields).getD [] := by
    rcases evidence with _ | ⟨_⟩ | ⟨_⟩ <;> simp [Evidence.fields]
  simp [hevidence, Request.fields]

namespace HttpClient

/-- The endpoints that are asked about a drive. -/
def driveEndpoints : List String :=
  [createEndpoint, completeEndpoint, officeEndpoint, videoEndpoint]

/-- A post about a drive, whose body names it. -/
def Names (drive : Json) (config : HttpConfig) (p : Post) : Prop :=
  ∃ token endpoint body, endpoint ∈ driveEndpoints ∧ body.NamesDrive drive ∧
    p = posting config token endpoint body

/-- A post about a drive goes to another address than a lookup. -/
theorem Names.url_ne {drive : Json} {config : HttpConfig} {p : Post} (h : Names drive config p) :
    p.url ≠ config.urlFor accountEndpoint := by
  obtain ⟨token, endpoint, body, hendpoint, -, rfl⟩ := h
  have hapart : ∀ e ∈ driveEndpoints, HttpConfig.isAddress e = false ∧
      HttpConfig.trimStart e ≠ HttpConfig.trimStart accountEndpoint := by decide
  obtain ⟨haddress, hne⟩ := hapart endpoint hendpoint
  exact urlFor_ne config haddress (by decide) hne

/-- What a client has sent so far. -/
def requests (c : HttpClient (Metered τ)) : List (Post ⊕ Put) :=
  Traffic.requests c.transport.traffic

/-! ### What is posted on the way -/

variable {P Q : HttpConfig → Post → Prop} {s t : HttpClient (Metered τ)}

/-- On the way from one state to the other the settings stay, and every post is as described. -/
structure Sends (P : HttpConfig → Post → Prop) (s t : HttpClient (Metered τ)) : Prop where
  config_eq : t.config = s.config
  requests_eq : ∃ sent, t.requests = s.requests ++ sent ∧ ∀ p, .inl p ∈ sent → P s.config p

theorem Sends.mono (h : Sends P s t) (hPQ : ∀ config p, P config p → Q config p) : Sends Q s t := by
  obtain ⟨hconfig, sent, hsent, hposts⟩ := h
  exact ⟨hconfig, sent, hsent, fun p hp => hPQ _ _ (hposts p hp)⟩

/-- Nothing is posted where neither the settings nor what was sent changes. -/
theorem Sends.none (hconfig : t.config = s.config) (h : t.requests = s.requests) : Sends P s t :=
  ⟨hconfig, [], h.trans (List.append_nil _).symm, fun _ hp => nomatch hp⟩

theorem onward_sends : Onward (Sends (τ := τ) P) where
  refl _ := .none rfl rfl
  trans := by
    rintro s t u ⟨hst, sent, hsent, hposts⟩ ⟨htu, more, hmore, hposts'⟩
    refine ⟨htu.trans hst, sent ++ more, by rw [hmore, hsent, List.append_assoc], fun p hp => ?_⟩
    rcases List.mem_append.mp hp with hp | hp
    · exact hposts p hp
    · rw [← hst]
      exact hposts' p hp

/-- Neither the settings nor the connections change. The token may. -/
def Untouched (s t : Logged (HttpClient (Metered τ))) : Prop :=
  t.state.config = s.state.config ∧ t.state.books = s.state.books

theorem Untouched.sends {s t : Logged (HttpClient (Metered τ))} (h : Untouched s t) :
    Silent (Sends P) s t :=
  .none h.1 (congrArg (fun b : Books => Traffic.requests b.traffic) h.2)

/-- What was sent grows by what is sent. -/
theorem requests_push (m : Metered τ) (x : Traffic) (inner : τ) :
    Traffic.requests (m.push x inner).traffic =
      Traffic.requests m.traffic ++ Traffic.requests [x] :=
  List.filterMap_append

variable [Transport τ]

/-- A client that cannot send turns a request down, and stays as it is. -/
theorem request_unready {s : Logged (HttpClient (Metered τ))} (h : ¬s.state.Ready)
    (endpoint : String) (body : Json) :
    Ends (request endpoint body) s (fun _ _ => False) (fun _ t => t = s) := by
  refine (request_ends endpoint body s).mono (fun _ _ hs => h ⟨hs.closed, hs.session⟩) ?_
  rintro e t (hs | ⟨-, rfl⟩)
  · exact (h ⟨hs.closed, hs.session⟩).elim
  · rfl

/-- A client that can send posts one request, where its body can be written. -/
theorem request_sends {s : Logged (HttpClient (Metered τ))} (h : s.state.Ready)
    (endpoint : String) {body : Json} (hb : (body.orElse (.obj [])).Fits (s.state.room + 1)) :
    Ends (request endpoint body).outcome s
      (fun x t => x = (s.state.exchange endpoint body).1.answer s.state.room ∧
        t.state.config = s.state.config ∧
        t.state.requests = s.state.requests ++
          [.inl (posting s.state.config s.state.token endpoint body)])
      (fun _ _ => False) := by
  refine (request_replies h endpoint hb).mono ?_ fun _ _ hf => hf
  rintro x t ⟨hx, ht⟩
  refine ⟨hx, ?_, ?_⟩
  · rw [ht]
    exact s.state.opened_config
  · rw [ht]
    exact s.state.requests_exchange endpoint body

theorem sends_request {endpoint : String} {body : Json}
    (h : ∀ config token, P config (posting config token endpoint body)) :
    Carries (Silent (Sends P)) (request endpoint body : Act (HttpClient (Metered τ)) Json) := by
  intro s
  by_cases hr : s.state.Ready
  · have sent : ∀ {t : Logged (HttpClient (Metered τ))}, t.state.config = s.state.config →
        t.state.requests = s.state.requests ++
          [.inl (posting s.state.config s.state.token endpoint body)] → Silent (Sends P) s t := by
      refine fun hconfig ht => ⟨hconfig, _, ht, fun p hp => ?_⟩
      cases List.mem_singleton.mp hp
      exact h _ _
    by_cases hb : (body.orElse (.obj [])).Fits (s.state.room + 1)
    · exact (ends_outcome.mp (request_sends hr endpoint hb)).mono
        (fun _ _ ht => sent ht.2.1 ht.2.2) fun _ _ ht => sent ht.2.1 ht.2.2
    · have unsent : ∀ {t : Logged (HttpClient (Metered τ))}, t.state = s.state.opened →
          Silent (Sends P) s t := by
        intro t ht
        rw [Silent, ht]
        exact .none s.state.opened_config s.state.requests_opened
      exact (ends_outcome.mp (request_unwritten hr endpoint hb)).mono
        (fun _ _ ht => unsent ht.2) fun _ _ ht => unsent ht.2
  · refine (request_unready hr endpoint body).mono (fun _ _ hf => hf.elim) ?_
    rintro _ t rfl
    exact onward_sends.refl _

/-- The bytes of a part are put and not posted. -/
theorem sends_uploadPart (url : Json) (data : ByteArray) :
    Carries (Silent (Sends P)) (uploadPart url data : Act (HttpClient (Metered τ)) Unit) := by
  have hon : Onward (Silent (Sends (τ := τ) P)) := onward_sends.silent
  have still : ∀ {β : Type} {a : Act (HttpClient (Metered τ)) β}, Carries Still a →
      Carries (Silent (Sends P)) a := fun ha s =>
    (ha s).mono (fun _ t ht => by rw [Silent, ht]; exact onward_sends.refl _)
      fun _ t ht => by rw [Silent, ht]; exact onward_sends.refl _
  have opens : Carries (Silent (Sends P)) (ensureSession : Act (HttpClient (Metered τ)) Unit) := by
    refine hon.bind hon.look fun c => ?_
    split
    · refine hon.bind (hon.ofExcept _) fun _ => carries_change fun s => .none rfl ?_
      exact (requests_push _ _ _).trans (List.append_nil _)
    · exact hon.pure _
  have puts : ∀ request : Put, Carries (Silent (Sends P))
      (transact (Transport.put request) : Act (HttpClient (Metered τ)) _) := fun request s =>
    transact_ends.mpr ⟨rfl, [.inr request], requests_push _ _ _, fun p hp => by simp at hp⟩
  refine hon.bind (hon.bind hon.look fun c => ?_) fun _ => hon.bind opens fun _ =>
    hon.bind hon.look fun c => hon.bind (puts _) fun reply => ?_
  · split
    · exact hon.fail _
    · exact hon.pure _
  · match reply with
    | none => exact hon.fail _
    | some (.error text) => exact still (still_networkFault _ _)
    | some (.ok ⟨status, text⟩) =>
      dsimp only
      split
      · cases text with
        | error text => exact still (still_networkFault _ _)
        | ok text => exact hon.fail _
      · exact hon.pure _

end HttpClient

/-! ### The posts of an upload -/

/-- The call is the one that makes the post. -/
def Event.Posts (config : HttpConfig) (p : Post) : Event → Prop
  | .create body _ => ∃ token, p = HttpClient.posting config token HttpClient.createEndpoint body
  | .complete driveId fileId uploadId _ => ∃ token,
    p = HttpClient.posting config token HttpClient.completeEndpoint
      (.obj [("drive_id", driveId), ("file_id", fileId), ("upload_id", uploadId)])
  | .put .. | .told .. => False

namespace Watched

open HttpClient (Sends)

/-- Every post on the way is made by one of the calls. -/
def Accounts (s t : Watched (HttpClient (Metered τ))) : Prop :=
  ∃ calls, t.events = s.events ++ calls ∧
    Sends (fun config p => ∃ event ∈ calls, event.Posts config p) s.service t.service

theorem onward_accounts : Onward (Accounts (τ := τ)) where
  refl _ := ⟨[], (List.append_nil _).symm, HttpClient.onward_sends.refl _⟩
  trans := by
    rintro s t u ⟨calls, hcalls, hst⟩ ⟨calls', hcalls', htu⟩
    refine ⟨calls ++ calls', by rw [hcalls', hcalls, List.append_assoc], ?_⟩
    refine HttpClient.onward_sends.trans (hst.mono ?_) (htu.mono ?_)
    · exact fun _ _ ⟨event, hm, hp⟩ => ⟨event, List.mem_append_left _ hm, hp⟩
    · exact fun _ _ ⟨event, hm, hp⟩ => ⟨event, List.mem_append_right _ hm, hp⟩

/-- A call that is kept accounts for what it posts. -/
theorem accounts_note {event : Except Fault β → Event} {call : Act (HttpClient (Metered τ)) β}
    {P : HttpConfig → Post → Prop} (hcall : Carries (Silent (Sends P)) call)
    (hP : ∀ result config p, P config p → (event result).Posts config p) :
    Carries (Silent Accounts) (note event call) := by
  intro s
  have accounted : ∀ {t : Logged (HttpClient (Metered τ))} (result : Except Fault β),
      Sends P s.state.service t.state →
        Accounts s.state ⟨t.state, s.state.events ++ [event result]⟩ := fun result ht =>
    ⟨[event result], rfl, ht.mono fun config p hp =>
      ⟨event result, List.mem_singleton_self _, hP result config p hp⟩⟩
  unfold note
  rw [ends_bind, ends_outcome, ends_part]
  refine (hcall _).mono (fun b t ht => ?_) fun e t ht => ?_
  · rw [ends_bind, ends_change, ends_ofExcept]
    exact ⟨fun _ _ => accounted _ ht, fun _ h => nomatch h⟩
  · rw [ends_bind, ends_change, ends_ofExcept]
    exact ⟨fun _ h => (nomatch h), fun _ _ => accounted _ ht⟩

/-- So do all calls of an upload. -/
theorem serves_accounts [Transport τ] {callback : Option (Progress (HttpClient (Metered τ)))}
    (h : ∀ tell ∈ callback, ∀ n, Carries HttpClient.Untouched (tell n)) :
    Serves (callback.map progress) (Accounts (τ := τ)) where
  toOnward := onward_accounts
  create body := accounts_note
    (P := fun config p => ∃ token, p = HttpClient.posting config token _ body)
    (HttpClient.sends_request fun _ token => ⟨token, rfl⟩) fun _ _ _ hp => hp
  put url bytes := accounts_note (P := fun _ _ => False) (HttpClient.sends_uploadPart url bytes)
    fun _ _ _ hp => hp
  complete driveId fileId uploadId := accounts_note
    (P := fun config p => ∃ token, p = HttpClient.posting config token _ _)
    (HttpClient.sends_request fun _ token => ⟨token, rfl⟩) fun _ _ _ hp => hp
  told := by
    intro tell htell n
    obtain ⟨inner, hinner, rfl⟩ := Option.map_eq_some_iff.mp htell
    exact accounts_note (P := fun _ _ => False)
      (fun s => (h inner hinner n s).mono (fun _ _ ht => ht.sends) fun _ _ ht => ht.sends)
      fun _ _ _ hp => hp

end Watched

/-- Whatever an upload does, its calls post about the drive of its coordinator. -/
theorem Conduct.names [Reader ρ] {limits : FileLimits} {c : Coordinator} {call : UploadCall ρ α}
    {calls : Calls} {x : Except Fault Report} (h : Conduct limits c call calls x)
    {config : HttpConfig} {p : Post} :
    (∃ event ∈ calls.events, event.Posts config p) → HttpClient.Names c.driveId config p := by
  have created : ∀ {source : Source ρ} {attempts : List Attempt}, ∀ event ∈
      (attempts.map (Attempt.create (c.request call.parentId source))).map Create.event,
      event.Posts config p → HttpClient.Names c.driveId config p := by
    intro source attempts event he hp
    rw [List.map_map] at he
    obtain ⟨a, -, rfl⟩ := List.mem_map.mp he
    obtain ⟨token, rfl⟩ := hp
    exact ⟨token, _, _, List.mem_cons_self, Request.namesDrive_body _ _, rfl⟩
  have transferred : ∀ {rounds : List Round}, ∀ event ∈ rounds.flatMap Round.events,
      ¬event.Posts config p := by
    intro rounds event he hp
    obtain ⟨round, -, he⟩ := List.mem_flatMap.mp he
    rcases List.mem_cons.mp he with rfl | he
    · exact hp
    · obtain ⟨told, -, rfl⟩ := Option.map_eq_some_iff.mp (Option.mem_toList.mp he)
      exact hp
  have completed : ∀ {fileId uploadId : Json} {result : Except Fault Json},
      (Finish.event ⟨c.driveId, fileId, uploadId, result⟩).Posts config p →
        HttpClient.Names c.driveId config p := by
    rintro fileId uploadId result ⟨token, rfl⟩
    exact ⟨token, _, _, by simp [HttpClient.driveEndpoints], Json.namesDrive_obj (by simp), rfl⟩
  rintro ⟨event, he, hp⟩
  rcases List.mem_append.mp he with he | he
  · rcases List.mem_append.mp he with he | he
    · cases h with
      | unopened => cases he
      | unsettled | rapid | interrupted | unnamed | transferred => exact created event he hp
    · exact (transferred event he hp).elim
  · cases h with
    | unopened | unsettled | rapid | interrupted | unnamed => cases he
    | transferred =>
      cases List.mem_singleton.mp he
      exact completed hp

namespace Coordinator

variable [Reader ρ]

/-- A watched upload leaves its service as the upload itself does. -/
theorem service_upload [DriveService α] (c : Coordinator) (call : UploadCall ρ α)
    {R : α → Prop} {s : Logged (Site α)}
    (h : Ends (c.upload call.watched) ⟨⟨⟨s.state.service, []⟩, s.state.disk⟩, s.log⟩
      (fun _ t => R t.state.service.service) fun _ t => R t.state.service.service) :
    Ends (c.upload call) s (fun _ t => R t.state.service) fun _ t => R t.state.service := by
  have hcall : call.watched.Match True Eq Watched.Watches call :=
    ⟨rfl, rfl, Watched.tellers_watches _, fun disk => Source.inStep_resolve disk _ _ _⟩
  have halike := upload_inStep (c := c) (streams_eq _) Watched.services_watches hcall
    ⟨⟨⟨s.state.service, []⟩, s.state.disk⟩, s.log⟩ s (.mk ⟨rfl, rfl⟩ s.log)
  refine (halike.ends h).mono ?_ ?_
  · rintro report t ⟨_, w, ⟨-, ⟨hservice, -⟩, -⟩, hR⟩
    exact hservice ▸ hR
  · rintro e t ⟨w, ⟨⟨hservice, -⟩, -⟩, hR⟩
    exact hservice ▸ hR

/-- **The posts of an upload** name the drive of its coordinator, all of them. -/
theorem upload_sends [Transport τ] (c : Coordinator) (call : UploadCall ρ (HttpClient (Metered τ)))
    (h : ∀ tell ∈ call.progress, ∀ n, Carries HttpClient.Untouched (tell n)) :
    Carries (Silent fun s t : Site (HttpClient (Metered τ)) =>
      HttpClient.Sends (HttpClient.Names c.driveId) s.service t.service) (c.upload call) := by
  intro s
  refine c.service_upload call (R := fun a => HttpClient.Sends _ s.state.service a) ?_
  have named : ∀ {t : Logged (Site (Watched (HttpClient (Metered τ))))} {x : Except Fault Report},
      Watched.Accounts ⟨s.state.service, []⟩ t.state.service →
      (∃ calls, Conduct s.state.disk.limits c call calls x ∧
        t.state.service.events = [] ++ calls.events) →
        HttpClient.Sends (HttpClient.Names c.driveId) s.state.service t.state.service.service := by
    rintro t x ⟨events, hevents, hsends⟩ ⟨calls, hc, hcalls⟩
    obtain rfl : calls.events = events := List.append_cancel_left (hcalls.symm.trans hevents)
    exact hsends.mono fun config p hp => hc.names hp
  exact ((c.carries_upload call.watched (Watched.serves_accounts h) _).and
    (c.upload_ends call _)).mono (fun _ _ ht => named ht.1 ht.2) fun _ _ ht => named ht.1 ht.2

end Coordinator

end RapidUpload
