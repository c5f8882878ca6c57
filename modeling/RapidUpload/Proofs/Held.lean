import RapidUpload.Proofs.Named

/-!
# The drive that is held

A client holds a drive from the first lookup that gives one, or from the start if it was given one,
and looks none up any more.  Until then each operation that needs a drive looks it up first, and one
whose lookup fails sends nothing else.

* `HttpClient.lookup`: what a lookup comes to by its reply.
* `Client.Uses`: how an operation comes by its drive, and what it sends.
* `Client.Resolves`: what was sent on the way: lookups, and then posts that name the one drive.
* `Client.perform_resolves`: both for each operation of a run, and for all of it.
-/

namespace RapidUpload

open Step

variable {ρ β τ : Type}

/-! ### Lookups -/

namespace HttpClient

/-- The post of a lookup. -/
def lookupPost (c : HttpClient τ) : Post := posting c.config c.token accountEndpoint .null

/-- Neither the settings nor what was sent changes. -/
def Idle (s t : HttpClient (Metered τ)) : Prop := t.config = s.config ∧ t.requests = s.requests

variable [Transport τ]

/-- What a lookup comes to by its reply: the drive that the answer names, if it names one. -/
def lookup (c : HttpClient τ) : Except Fault Json := do
  let answer ← (c.exchange accountEndpoint .null).1.answer c.room
  let drive := answer.field "default_drive_id"
  if drive.truthy then .ok drive else .error (.transport .noDrive answer)

/-- Only a drive that counts is found. -/
theorem truthy_of_lookup {c : HttpClient τ} {drive : Json} (h : c.lookup = .ok drive) :
    drive.truthy = true := by
  unfold lookup at h
  cases hx : (c.exchange accountEndpoint .null).1.answer c.room with
  | error e => rw [hx] at h; cases h
  | ok answer =>
    rw [hx] at h
    dsimp only [Bind.bind, Except.bind] at h
    split at h
    · cases h
      assumption
    · cases h

/-- A lookup is one post, and ends in what its reply comes to. -/
theorem defaultDrive_sends {s : Logged (HttpClient (Metered τ))} (h : s.state.Ready) :
    Ends defaultDrive.outcome s
      (fun x t => x = s.state.lookup ∧ t.state.config = s.state.config ∧
        t.state.requests = s.state.requests ++ [.inl s.state.lookupPost])
      (fun _ _ => False) := by
  rw [ends_outcome]
  unfold defaultDrive
  rw [ends_bind]
  have hwritten : (Json.null.orElse (.obj [])).Fits (s.state.room + 1) :=
    .obj fun _ h => nomatch h
  refine (ends_outcome.mp (request_sends h accountEndpoint hwritten)).mono ?_ ?_
  · rintro answer t ⟨hx, ht⟩
    have hlookup : s.state.lookup = if (answer.field "default_drive_id").truthy
        then .ok (answer.field "default_drive_id") else .error (.transport .noDrive answer) := by
      rw [lookup, ← hx]
      rfl
    dsimp only
    split
    · rename_i hdrive
      exact ends_pure.mpr ⟨(hlookup.trans (if_pos hdrive)).symm, ht⟩
    · rename_i hdrive
      exact ends_fail.mpr ⟨(hlookup.trans (if_neg hdrive)).symm, ht⟩
  · rintro e t ⟨hx, ht⟩
    refine ⟨?_, ht⟩
    rw [lookup, ← hx]
    rfl

/-- Closing sends nothing. -/
theorem close_idle : Carries (Silent Idle) (close : Act (HttpClient (Metered τ)) Unit) := by
  have hon : Onward (Silent (Idle (τ := τ))) :=
    ⟨fun _ => ⟨rfl, rfl⟩, fun h h' => ⟨h'.1.trans h.1, h'.2.trans h.2⟩⟩
  have silent : ∀ (m : Metered τ) (x : Traffic) (inner : τ), Traffic.requests [x] = [] →
      Traffic.requests (m.push x inner).traffic = Traffic.requests m.traffic := fun m x inner hx =>
    (requests_push m x inner).trans (by rw [hx, List.append_nil])
  refine hon.bind (carries_change fun _ => ⟨rfl, rfl⟩) fun _ => hon.bind hon.look fun c => ?_
  dsimp only
  have pool : Carries (Silent Idle) (do
        if (← Act.look).poolOpen then
          Act.change fun c : HttpClient (Metered τ) =>
            { c with poolOpen := false, transport := Transport.closePool c.transport }) := by
    refine hon.bind hon.look fun c => ?_
    split
    · exact carries_change fun s => ⟨rfl, silent _ _ _ rfl⟩
    · exact hon.pure _
  split
  · exact hon.bind (fun s => transact_ends.mpr ⟨rfl, silent _ _ _ rfl⟩) fun _ =>
      hon.bind (carries_change fun _ => ⟨rfl, rfl⟩) fun _ => pool
  · exact pool

end HttpClient

/-! ### One operation -/

namespace Client

open HttpClient (Names Sends)

/-- The drive stays, and is named in all that is posted. -/
def Keeps (s t : Logged (Client (HttpClient (Metered τ)))) : Prop :=
  t.state.driveId = s.state.driveId ∧ Sends (Names s.state.driveId) s.state.account t.state.account

/-- What is asked about the drive that is held. -/
theorem keeps_account {s : Logged (Client (HttpClient (Metered τ)))}
    {a : Act (HttpClient (Metered τ)) β}
    (ha : Carries (Silent (Sends (Names s.state.driveId))) a) :
    Ends (Act.within theAccount a) s (fun _ t => Keeps s t) (fun _ t => Keeps s t) :=
  ends_part.mpr ((ha _).mono (fun _ _ ht => ⟨rfl, ht⟩) fun _ _ ht => ⟨rfl, ht⟩)

variable [Transport τ]

/-- How a client comes by the drive that something needs, what it sends for that thing, and the
fault that the thing ends in, if it does. -/
inductive Uses (s t : Client (HttpClient (Metered τ))) : Option Fault → List (Post ⊕ Put) → Prop
  /-- It holds a drive, and names it in all that it posts. -/
  | held {fault : Option Fault} {sent : List (Post ⊕ Put)} (hs : s.driveId.truthy = true)
    (hd : t.driveId = s.driveId)
    (hsent : ∀ p, .inl p ∈ sent → Names s.driveId s.account.config p) : Uses s t fault sent
  /-- It holds none, and cannot send anything. -/
  | unready {e : Fault} (hs : s.driveId.truthy = false) (hr : ¬s.account.Ready)
    (hd : t.driveId = s.driveId) : Uses s t (some e) []
  /-- It holds none, and the lookup fails. -/
  | failed {e : Fault} (hs : s.driveId.truthy = false) (hr : s.account.Ready)
    (hl : s.account.lookup = .error e) (hd : t.driveId = s.driveId) :
    Uses s t (some e) [.inl s.account.lookupPost]
  /-- It holds none, finds one, and names that in all that it posts from then on. -/
  | found {fault : Option Fault} {sent : List (Post ⊕ Put)} (hs : s.driveId.truthy = false)
    (hr : s.account.Ready) (hl : s.account.lookup = .ok t.driveId)
    (hsent : ∀ p, .inl p ∈ sent → Names t.driveId s.account.config p) :
    Uses s t fault (.inl s.account.lookupPost :: sent)

/-- A lookup is sent only where no drive is held. -/
theorem Uses.of_lookup {s t : Client (HttpClient (Metered τ))} {fault : Option Fault}
    {sent : List (Post ⊕ Put)} (h : Uses s t fault sent) {p : Post} (hp : .inl p ∈ sent)
    (hurl : p.url = s.account.config.urlFor HttpClient.accountEndpoint) :
    s.driveId.truthy = false := by
  cases h with
  | held hs hd hsent => exact ((hsent p hp).url_ne hurl).elim
  | unready hs | failed hs | found hs => exact hs

/-- From one state to the other something was done that needs a drive. -/
def Served (s t : Logged (Client (HttpClient (Metered τ)))) (fault : Option Fault) : Prop :=
  t.state.account.config = s.state.account.config ∧ ∃ sent,
    t.state.account.requests = s.state.account.requests ++ sent ∧ Uses s.state t.state fault sent

/-- Connecting gives the drive that the client holds then. -/
theorem connect_served (s : Logged (Client (HttpClient (Metered τ)))) :
    Ends connect s (fun drive t => drive = t.state.driveId ∧ Served s t none)
      (fun e t => Served s t (some e)) := by
  unfold connect
  rw [ends_bind, ends_look]
  cases hk : s.state.driveId.truthy with
  | true =>
    rw [if_neg (by decide), ends_bind, ends_look, ends_pure]
    exact ⟨rfl, rfl, [], (List.append_nil _).symm, .held hk rfl fun _ h => nomatch h⟩
  | false =>
    rw [if_pos (by decide), ends_bind, ends_part]
    by_cases hr : s.state.account.Ready
    · refine (ends_outcome.mp (HttpClient.defaultDrive_sends hr)).mono ?_ ?_
      · rintro drive t ⟨hl, hconfig, hsent⟩
        rw [ends_bind, ends_change, ends_bind, ends_tell, ends_bind, ends_look, ends_pure]
        exact ⟨rfl, hconfig, _, hsent, .found hk hr hl.symm fun _ h => nomatch h⟩
      · rintro e t ⟨hl, hconfig, hsent⟩
        exact ⟨hconfig, _, hsent, .failed hk hr hl.symm rfl⟩
    · refine ends_bind.mpr ((HttpClient.request_unready hr _ _).mono (fun _ _ h => h.elim) ?_)
      rintro e _ rfl
      exact ⟨rfl, [], (List.append_nil _).symm, .unready hk hr rfl⟩

/-- What keeps the drive after connecting makes one use of it. -/
theorem Served.keeps {s m t : Logged (Client (HttpClient (Metered τ)))} {fault : Option Fault}
    (h : Served s m none) (ht : Keeps m t) : Served s t fault := by
  obtain ⟨hconfig, first, hfirst, huses⟩ := h
  obtain ⟨hdrive, hconfig', more, hmore, hnames⟩ := ht
  refine ⟨hconfig'.trans hconfig, first ++ more, ?_, ?_⟩
  · rw [hmore, hfirst, List.append_assoc]
  · rw [hconfig] at hnames
    cases huses with
    | held hs hd hsent =>
      rw [hd] at hdrive hnames
      exact .held hs hdrive fun p hp => (List.mem_append.mp hp).elim (hsent p) (hnames p)
    | found hs hr hl hsent =>
      rw [← hdrive] at hl hsent hnames
      exact .found hs hr hl fun p hp => (List.mem_append.mp hp).elim (hsent p) (hnames p)

/-- So does all that is done with the drive after connecting. -/
theorem bind_served {f : Json → Act (Client (HttpClient (Metered τ))) β}
    (hf : ∀ s, Ends (f s.state.driveId) s (fun _ t => Keeps s t) (fun _ t => Keeps s t))
    (s : Logged (Client (HttpClient (Metered τ)))) :
    Ends (connect >>= f) s (fun _ t => Served s t none) (fun e t => Served s t (some e)) := by
  rw [ends_bind]
  refine (connect_served s).mono ?_ fun _ _ h => h
  rintro drive m ⟨rfl, hm⟩
  exact (hf m).mono (fun _ _ ht => hm.keeps ht) fun _ _ ht => hm.keeps ht

theorem officePreview_served (fileId : Json) (s : Logged (Client (HttpClient (Metered τ)))) :
    Ends (officePreview fileId) s (fun _ t => Served s t none)
      (fun e t => Served s t (some e)) := by
  refine bind_served (fun s => keeps_account ?_) s
  have hon := HttpClient.onward_sends (τ := τ) (P := Names s.state.driveId) |>.silent
  exact hon.bind hon.look fun c => HttpClient.sends_request fun config token =>
    ⟨token, _, _, by simp [HttpClient.driveEndpoints], Json.namesDrive_obj (by simp), rfl⟩

theorem videoPreview_served (fileId : Json) (s : Logged (Client (HttpClient (Metered τ)))) :
    Ends (videoPreview fileId) s (fun _ t => Served s t none)
      (fun e t => Served s t (some e)) := by
  refine bind_served (fun s => keeps_account ?_) s
  exact HttpClient.sends_request fun config token =>
    ⟨token, _, _, by simp [HttpClient.driveEndpoints], Json.namesDrive_obj (by simp), rfl⟩

theorem upload_served [Reader ρ] (call : UploadCall ρ (HttpClient (Metered τ)))
    (h : ∀ tell ∈ call.progress, ∀ n, Carries HttpClient.Untouched (tell n))
    (s : Logged (Client (HttpClient (Metered τ)))) :
    Ends (upload call) s (fun _ t => Served s t none) (fun e t => Served s t (some e)) := by
  refine bind_served (fun s => ?_) s
  rw [ends_bind, ends_look, ends_part]
  exact (Coordinator.upload_sends _ call h _).mono (fun _ _ ht => ⟨rfl, ht⟩)
    fun _ _ ht => ⟨rfl, ht⟩

end Client

namespace DriveOperation

/-- The operation needs a drive. -/
def needsDrive : DriveOperation ρ τ → Bool
  | .connect | .upload _ | .officePreview _ | .videoPreview _ => true
  | .close | .setToken _ | .account _ => false

/-- The operation is the drive client's own, and its callback leaves the settings and the
connections of the HTTP client alone. -/
def Own : DriveOperation ρ (Metered τ) → Prop
  | .upload call => ∀ tell ∈ call.progress, ∀ n, Carries HttpClient.Untouched (tell n)
  | .account _ => False
  | _ => True

theorem Own.fair {op : DriveOperation ρ (Metered τ)} (h : op.Own) : op.Fair := by
  cases op with
  | upload call =>
    have still : ∀ {s t : Logged (HttpClient (Metered τ))}, HttpClient.Untouched s t →
        HttpClient.Moves s t := by
      intro s t ht
      rw [HttpClient.Moves, ht.2]
    exact fun tell htell n s => (h tell htell n s).mono (fun _ _ ht => still ht)
      fun _ _ ht => still ht
  | account => exact h.elim
  | connect | close | setToken | officePreview | videoPreview => trivial

variable [Reader ρ] [Transport τ]

/-- How the operation ends, and what it leaves. -/
def apply (op : DriveOperation ρ τ) (s : Logged (Client (HttpClient τ))) :
    Except Fault Given × Logged (Client (HttpClient τ)) :=
  match op.run s with
  | .ok given t => (.ok given, t)
  | .error e t => (.error e, t)

/-- The fault that the operation ends in, if it does. -/
def fault? (op : DriveOperation ρ τ) (s : Logged (Client (HttpClient τ))) : Option Fault :=
  match (op.apply s).1 with
  | .ok _ => none
  | .error e => some e

theorem apply_ends {op : DriveOperation ρ τ} {s : Logged (Client (HttpClient τ))}
    {P : Option Fault → Logged (Client (HttpClient τ)) → Prop}
    (h : Ends op.run s (fun _ t => P none t) fun e t => P (some e) t) :
    P (op.fault? s) (op.apply s).2 := by
  unfold fault? apply
  cases hr : op.run s with
  | ok given t =>
    have hP := ends_of_ok h hr
    exact hP
  | error e t =>
    have hP := ends_of_error h hr
    exact hP

/-- An operation that needs a drive uses one. -/
theorem apply_served {op : DriveOperation ρ (Metered τ)} (h : op.Own) (hn : op.needsDrive = true)
    (s : Logged (Client (HttpClient (Metered τ)))) :
    Client.Served s (op.apply s).2 (op.fault? s) := by
  refine apply_ends (P := fun fault t => Client.Served s t fault) ?_
  cases op with
  | connect =>
    exact ends_map.mpr ((Client.connect_served s).mono (fun _ _ ht => ht.2) fun _ _ ht => ht)
  | upload call => exact ends_map.mpr (Client.upload_served call h s)
  | officePreview fileId => exact ends_map.mpr (Client.officePreview_served fileId s)
  | videoPreview fileId => exact ends_map.mpr (Client.videoPreview_served fileId s)
  | close | setToken | account => cases hn

/-- One that needs none sends nothing, and leaves the drive that is held. -/
theorem apply_idle {op : DriveOperation ρ (Metered τ)} (h : op.Own) (hn : op.needsDrive = false)
    (s : Logged (Client (HttpClient (Metered τ)))) :
    (op.apply s).2.state.driveId = s.state.driveId ∧
      HttpClient.Idle s.state.account (op.apply s).2.state.account := by
  refine apply_ends (P := fun _ t => t.state.driveId = s.state.driveId ∧
    HttpClient.Idle s.state.account t.state.account) ?_
  cases op with
  | connect | upload | officePreview | videoPreview => cases hn
  | account => exact h.elim
  | setToken token => exact ends_map.mpr (ends_change.mpr ⟨rfl, rfl, rfl⟩)
  | close =>
    refine ends_map.mpr (ends_part.mpr ((HttpClient.close_idle _).mono ?_ ?_))
    · exact fun _ _ ht => ⟨rfl, ht⟩
    · exact fun _ _ ht => ⟨rfl, ht⟩

theorem moves_apply {op : DriveOperation ρ (Metered τ)} (h : op.Own)
    (s : Logged (Client (HttpClient (Metered τ)))) : Client.Moves s (op.apply s).2 :=
  apply_ends (P := fun _ t => Client.Moves s t) (moves_run h.fair s)

theorem apply_close (s : Logged (Client (HttpClient (Metered τ)))) :
    ((close : DriveOperation ρ (Metered τ)).apply s).2.state.account.closed = true := by
  refine apply_ends (P := fun _ t => t.state.account.closed = true)
    (ends_map.mpr (ends_part.mpr ?_))
  refine (HttpClient.close_ends _).mono ?_ fun _ _ h => h.elim
  rintro _ t ⟨withPool, ht⟩
  exact congrArg Books.closed ht

end DriveOperation

/-! ### Runs -/

namespace Client

open HttpClient (Names posting accountEndpoint)

/-- On the way from one state to the other only lookups are sent as long as no drive is held, and
then only posts that name the drive that is held at the end. -/
structure Resolves (s t : Client (HttpClient (Metered τ))) : Prop where
  config_eq : t.account.config = s.account.config
  requests_eq : ∃ lookups named,
    t.account.requests = s.account.requests ++ (lookups ++ named) ∧
    (∀ r ∈ lookups, ∃ token, r = .inl (posting s.account.config token accountEndpoint .null)) ∧
    (∀ p, .inl p ∈ named → Names t.driveId s.account.config p) ∧
    (s.driveId.truthy = true → t.driveId = s.driveId ∧ lookups = []) ∧
    (t.driveId.truthy = false → t.driveId = s.driveId ∧ named = [])

theorem onward_resolves : Onward (Resolves (τ := τ)) where
  refl s := ⟨rfl, [], [], (List.append_nil _).symm, fun _ h => (nomatch h), fun _ h => (nomatch h),
    fun _ => ⟨rfl, rfl⟩, fun _ => ⟨rfl, rfl⟩⟩
  trans := by
    rintro s t u ⟨hst, lookups, named, ht, hlookups, hnamed, hfrom, hto⟩
      ⟨htu, lookups', named', hu, hlookups', hnamed', hfrom', hto'⟩
    rw [hst] at hlookups' hnamed'
    refine ⟨htu.trans hst, ?_⟩
    cases hd : t.driveId.truthy with
    | true =>
      -- the drive is held midway, and no lookup comes after that
      obtain ⟨hud, rfl⟩ := hfrom' hd
      refine ⟨lookups, named ++ named', ?_, hlookups, fun p hp => ?_, fun hs => ?_, fun h => ?_⟩
      · rw [hu, ht, List.nil_append]
        simp only [List.append_assoc]
      · rw [hud] at hnamed' ⊢
        exact (List.mem_append.mp hp).elim (hnamed p) (hnamed' p)
      · exact ⟨hud.trans (hfrom hs).1, (hfrom hs).2⟩
      · rw [hud, hd] at h
        cases h
    | false =>
      -- none is held midway, and nothing but lookups came before that
      obtain ⟨htd, rfl⟩ := hto hd
      refine ⟨lookups ++ lookups', named', ?_, fun r hr => ?_, hnamed', fun hs => ?_, fun h => ?_⟩
      · rw [hu, ht, List.append_nil]
        simp only [List.append_assoc]
      · exact (List.mem_append.mp hr).elim (hlookups r) (hlookups' r)
      · rw [htd, hs] at hd
        cases hd
      · exact ⟨(hto' h).1.trans htd, (hto' h).2⟩

variable [Transport τ]

theorem Served.resolves {s t : Logged (Client (HttpClient (Metered τ)))} {fault : Option Fault}
    (h : Served s t fault) : s.state.Resolves t.state := by
  obtain ⟨hconfig, sent, hsent, huses⟩ := h
  refine ⟨hconfig, ?_⟩
  have looked : ∀ r ∈ [Sum.inl s.state.account.lookupPost], ∃ token,
      r = (.inl (posting s.state.account.config token accountEndpoint .null) : Post ⊕ Put) :=
    fun r hr => ⟨_, List.mem_singleton.mp hr⟩
  cases huses with
  | held hs hd hnames =>
    refine ⟨[], sent, hsent, fun _ h => (nomatch h), ?_, fun _ => ⟨hd, rfl⟩, fun h => ?_⟩
    · rwa [hd]
    · rw [hd, hs] at h
      cases h
  | unready hs hr hd =>
    refine ⟨[], [], hsent, fun _ h => (nomatch h), fun _ h => (nomatch h), fun _ => ⟨hd, rfl⟩,
      fun _ => ⟨hd, rfl⟩⟩
  | failed hs hr hl hd =>
    refine ⟨[.inl s.state.account.lookupPost], [], hsent, looked, fun _ h => (nomatch h),
      fun h => ?_, fun _ => ⟨hd, rfl⟩⟩
    rw [hs] at h
    cases h
  | @found _ sent hs hr hl hnames =>
    refine ⟨[.inl s.state.account.lookupPost], sent, hsent, looked, hnames, fun h => ?_,
      fun h => ?_⟩
    · rw [hs] at h
      cases h
    · rw [HttpClient.truthy_of_lookup hl] at h
      cases h

variable [Reader ρ]

theorem resolves_apply {op : DriveOperation ρ (Metered τ)} (h : op.Own)
    (s : Logged (Client (HttpClient (Metered τ)))) : s.state.Resolves (op.apply s).2.state := by
  cases hn : op.needsDrive with
  | true => exact (op.apply_served h hn s).resolves
  | false =>
    obtain ⟨hd, hconfig, hsent⟩ := op.apply_idle h hn s
    exact ⟨hconfig, [], [], hsent.trans (List.append_nil _).symm, fun _ h => (nomatch h),
      fun _ h => (nomatch h), fun _ => ⟨hd, rfl⟩, fun _ => ⟨hd, rfl⟩⟩

/-- What operations leave that are carried out one after the other, each whatever became of those
before. -/
def perform (ops : List (DriveOperation ρ τ)) (s : Logged (Client (HttpClient τ))) :
    Logged (Client (HttpClient τ)) :=
  ops.foldl (fun s op => (op.apply s).2) s

/-- What each operation carries a run carries. -/
theorem perform_carries {R : Logged (Client (HttpClient τ)) → Logged (Client (HttpClient τ)) → Prop}
    (hR : Onward R) {ops : List (DriveOperation ρ τ)} (h : ∀ op ∈ ops, ∀ s, R s (op.apply s).2)
    (s : Logged (Client (HttpClient τ))) : R s (perform ops s) := by
  induction ops generalizing s with
  | nil => exact hR.refl s
  | cons op ops ih =>
    obtain ⟨hop, hops⟩ := List.forall_mem_cons.mp h
    exact hR.trans (hop s) (ih hops _)

/-- A run sends lookups as long as no drive is held, and then only what names the one drive. -/
theorem resolves_perform {ops : List (DriveOperation ρ (Metered τ))} (h : ∀ op ∈ ops, op.Own)
    (s : Logged (Client (HttpClient (Metered τ)))) : s.state.Resolves (perform ops s).state :=
  perform_carries (R := fun s t => s.state.Resolves t.state)
    ⟨fun _ => onward_resolves.refl _, onward_resolves.trans⟩
    (fun op hop s => resolves_apply (h op hop) s) s

/-- A run of a closed client sends nothing. -/
theorem perform_of_closed {ops : List (DriveOperation ρ (Metered τ))} (h : ∀ op ∈ ops, op.Own)
    {s : Logged (Client (HttpClient (Metered τ)))} (hc : s.state.account.closed = true) :
    (perform ops s).state.account.requests = s.state.account.requests := by
  have hmoves : Moves s (perform ops s) :=
    perform_carries onward_moves (fun op hop s => op.moves_apply (h op hop) s) s
  exact (hmoves.closed hc).2

/-- **One drive for all.**  Over any operations a client looks its drive up only while it holds
none, and once it holds one, given or found, it holds that for good and names it in every post that
is no lookup.  An operation that needs a drive and finds none held looks it up first, if the client
can send at all; where the lookup fails it sends nothing else, leaves the client without a drive,
and ends in that fault.  After the client was closed nothing is sent. -/
theorem perform_resolves {ops : List (DriveOperation ρ (Metered τ))} (h : ∀ op ∈ ops, op.Own)
    (s : Logged (Client (HttpClient (Metered τ)))) :
    (∀ before after, ops = before ++ after →
      (perform before s).state.Resolves (perform ops s).state) ∧
    ∀ before op after, ops = before ++ op :: after →
      let m := perform before s
      let t := (op.apply m).2
      (∃ sent, t.state.account.requests = m.state.account.requests ++ sent ∧
        (op.needsDrive = true → Uses m.state t.state (op.fault? m) sent) ∧
        (op.needsDrive = false → sent = [] ∧ t.state.driveId = m.state.driveId) ∧
        ∀ p, .inl p ∈ sent → p.url = m.state.account.config.urlFor accountEndpoint →
          m.state.driveId.truthy = false) ∧
      (op = .close → (perform ops s).state.account.requests = m.state.account.requests) := by
  constructor
  · rintro before after rfl
    have hafter := resolves_perform (fun op hop => h op (List.mem_append_right _ hop))
      (perform before s)
    rwa [perform, perform, ← List.foldl_append] at hafter
  · rintro before op after rfl m t
    obtain ⟨hop, hops⟩ := List.forall_mem_cons.mp (List.forall_mem_append.mp h).2
    constructor
    · cases hn : op.needsDrive with
      | true =>
        obtain ⟨-, sent, hsent, huses⟩ := op.apply_served hop hn m
        exact ⟨sent, hsent, fun _ => huses, fun h => (nomatch h), fun p => huses.of_lookup⟩
      | false =>
        obtain ⟨hd, -, hsent⟩ := op.apply_idle hop hn m
        exact ⟨[], hsent.trans (List.append_nil _).symm, fun h => (nomatch h), fun _ => ⟨rfl, hd⟩,
          fun _ h => nomatch h⟩
    · rintro rfl
      have hrun : perform (before ++ .close :: after) s = perform after t := List.foldl_append
      rw [hrun]
      exact (perform_of_closed hops (DriveOperation.apply_close m)).trans
        (DriveOperation.apply_idle hop rfl m).2.2

end Client

namespace Rehearsal

/-- A preview before any drive is known, a lookup, an upload and another preview with a drive, and a
preview once all is closed. -/
def errands : List (DriveOperation Stream (Metered Wire)) :=
  [.officePreview "file", .connect,
    .upload ⟨.bytes ⟨#[1, 2]⟩, "root", some "pair", none, some fun _ => pure (), none⟩,
    .videoPreview "file", .close, .officePreview "file"]

theorem own_errands : ∀ op ∈ errands, op.Own := by
  unfold errands
  simp only [List.forall_mem_cons]
  refine ⟨trivial, trivial, ?_, trivial, trivial, trivial, fun _ h => nomatch h⟩
  rintro _ ⟨⟩ n s
  exact ends_pure.mpr ⟨rfl, rfl⟩

/-- A client without a drive: the first lookup is lost, the second one names no drive, and the third
one does. -/
def errant : Logged (Client (HttpClient (Metered Wire))) :=
  visitor .null [.error "connection lost", .ok ⟨200, .ok "[]"⟩,
    .ok ⟨200, .ok "\x7b\"default_drive_id\": \"drive\"\x7d"⟩,
    .ok ⟨200, .ok "\x7b\"file_id\": \"file\", \"rapid_upload\": true\x7d"⟩, .ok ⟨200, .ok ""⟩]

end Rehearsal

namespace Client

open Rehearsal

/-- Of the five posts the first three are lookups, and the last of them finds the drive. -/
theorem perform_resolves_errands :
    (∀ op ∈ errands, op.Own) ∧ errant.state.Resolves (perform errands errant).state ∧
      (perform errands errant).state.driveId.truthy = true ∧
      (perform errands errant).state.account.requests.length = 5 ∧
      (perform (errands.take 2) errant).state.driveId.truthy = false ∧
      (perform (errands.take 2) errant).state.account.requests.length = 2 ∧
      (perform errands errant).state.account.requests =
        (perform (errands.take 4) errant).state.account.requests := by
  have h := perform_resolves own_errands errant
  have hclosed := h.2 (errands.take 4) .close (errands.drop 5) rfl
  exact ⟨own_errands, h.1 [] errands rfl, by decide +kernel, by decide +kernel, by decide +kernel,
    by decide +kernel, hclosed.2 rfl⟩

end Client

end RapidUpload
