import RapidUpload.Client
import RapidUpload.Proofs.Blocks
import RapidUpload.Proofs.Candor
import RapidUpload.Proofs.Mapping

/-!
# What an upload hears

A transport can keep what it hears.  An upload of bytes at hand ends in a report or in a fault of
the library's own exactly where all that it heard can be read.

* `Overheard`: a transport, and the replies it gave to each request.
* `Client.hears`: what an upload hears.
* `Client.upload_own`: what that says about how the upload ends.
-/

namespace RapidUpload

open Step

variable {ρ τ υ β : Type}

/-! ### Transports that keep what they hear -/

/-- A request, and the reply to it.  The bytes of a part get none where what stands for their
address is none. -/
inductive Heard where
  | post (p : Post) (reply : Reply)
  | put (p : Put) (reply : Option Reply)

/-- The reply can be read, by what was asked for; any reply to the bytes of a part can, if there is
one. -/
def Heard.Legible (config : HttpConfig) (room : Nat) : Heard → Prop
  | .post p reply => reply.Legible room (p.url == config.urlFor HttpClient.createEndpoint)
  | .put _ reply => reply.isSome = true

/-- A transport, and what it has heard. -/
structure Overheard (τ : Type) where
  inner : τ
  heard : List Heard

namespace Overheard

/-- The transport once it has heard something more. -/
def push (m : Overheard τ) (heard : β → Heard) (r : β × τ) : β × Overheard τ :=
  (r.1, ⟨r.2, m.heard ++ [heard r.1]⟩)

instance [Transport τ] : Transport (Overheard τ) where
  loadCertificates path m := Transport.loadCertificates path m.inner
  openSession settings m := { m with inner := Transport.openSession settings m.inner }
  closeSession m :=
    let (withPool, inner) := Transport.closeSession m.inner
    (withPool, { m with inner := inner })
  closePool m := { m with inner := Transport.closePool m.inner }
  post p m := m.push (.post p) (Transport.post p m.inner)
  put p m := m.push (.put p) (Transport.put p m.inner)

/-- A transport does what it does overheard. -/
def Overhears (m : Overheard τ) (t : τ) : Prop := m.inner = t

theorem transports_overhears [Transport τ] :
    Transports (fun _ => Eq) Eq (Overhears : Overheard τ → τ → Prop) where
  certificates := by rintro m _ path rfl; rfl
  openSession := by rintro m _ config _ _ - rfl; rfl
  closeSession := by rintro m _ rfl; exact ⟨rfl, rfl⟩
  closePool := by rintro m _ rfl; rfl
  post := by rintro m _ p _ rfl rfl; exact ⟨rfl, rfl⟩
  put := by rintro m _ p rfl; exact ⟨rfl, rfl⟩

/-- The client over the transport alone. -/
def theBare : Focus (HttpClient (Overheard τ)) (HttpClient τ) where
  get c := ⟨c.config, c.token, c.closed, c.sessionOpen, c.poolOpen, c.room, c.transport.inner⟩
  set d c := ⟨d.config, d.token, d.closed, d.sessionOpen, d.poolOpen, d.room,
    ⟨d.transport, c.transport.heard⟩⟩

/-- What is done to the client alone goes in step with itself. -/
theorem inStep_bare (a : Act (HttpClient τ) β) :
    InStep Eq (Told (HttpClient.Match Overhears)) (Act.within theBare a) a := by
  rintro ⟨_, log⟩ ⟨_, _⟩ ⟨⟨rfl, closed, sessionOpen, poolOpen, room, h⟩, hlog⟩
  cases hlog trivial
  rename_i config token m t
  obtain rfl : m.inner = t := h
  unfold Act.within theBare
  dsimp only
  cases a ⟨⟨config, token, closed, sessionOpen, poolOpen, room, m.inner⟩, log⟩ with
  | ok b t => exact .ok rfl (.mk (.mk t.state.config _ _ _ _ _ rfl) t.log)
  | error e t => exact .error e (.mk (.mk t.state.config _ _ _ _ _ rfl) t.log)

end Overheard

/-- In the states with `Inv` the certificates asked for load, no reply lists more than `most` parts,
and the state after is one of them. -/
structure HttpClient.Upholds [Transport τ] (origin : HttpClient τ) (most : Nat) (Inv : τ → Prop) :
    Prop where
  certificates : ∀ {t}, Inv t → ∀ path,
    origin.config.verification = .certificates (some path) →
      Transport.loadCertificates path t = .ok ()
  openSession : ∀ {t}, Inv t → ∀ settings, Inv (Transport.openSession settings t)
  post : ∀ {t}, Inv t → ∀ p,
    Reply.listed origin.room (Transport.post p t).1 ≤ most ∧ Inv (Transport.post p t).2
  put : ∀ {t}, Inv t → ∀ p, Inv (Transport.put p t).2

namespace HttpClient

/-- The client has the settings, the token and the room of another one, over a transport in one of
the states. -/
structure Stays (origin : HttpClient τ) (Inv : υ → Prop) (c : HttpClient υ) : Prop where
  config : c.config = origin.config
  token : c.token = origin.token
  room : c.room = origin.room
  transport : Inv c.transport

/-- What a request adds to what was heard, by how it ended: nothing where the client is closed, else
the reply that it was made of. -/
inductive Hears (origin : HttpClient τ) (most : Nat) (endpoint : String)
    (before after : List Heard) : Except Fault Json → Prop where
  | unsent (h : after = before) : Hears origin most endpoint before after
    (.error (.transport .closed .null))
  | heard {post : Post} {reply : Reply} (hurl : post.url = origin.config.urlFor endpoint)
    (hlisted : Reply.listed origin.room reply ≤ most) (h : after = before ++ [.post post reply]) :
    Hears origin most endpoint before after (reply.answer origin.room)

/-- All that the client heard can be read. -/
def Understands (origin : HttpClient τ) (c : HttpClient (Overheard τ)) : Prop :=
  ∀ x ∈ c.transport.heard, x.Legible origin.config origin.room

section Hears

variable {origin : HttpClient τ} {most : Nat} {before after : List Heard} {x : Except Fault Json}

/-- What a request to create an upload comes to shows whether all can still be read. -/
theorem Hears.clear_iff (h : Hears origin most createEndpoint before after x)
    (hf : ∀ y ∈ before, y.Legible origin.config origin.room) :
    (∀ y ∈ after, y.Legible origin.config origin.room) ↔ CreateReply.Clear x := by
  cases h with
  | unsent h => exact iff_of_true (h ▸ hf) ((CreateReply.clear_error rfl).mpr rfl)
  | heard hurl _ h =>
    rw [h, List.forall_mem_append, List.forall_mem_singleton, and_iff_right hf,
      Reply.clear_answer]
    unfold Heard.Legible
    dsimp only
    rw [hurl, beq_self_eq_true]

/-- What another request comes to shows it too. -/
theorem Hears.candid {endpoint : String}
    (h : Hears origin most endpoint before after x)
    (hother : origin.config.urlFor endpoint ≠ origin.config.urlFor createEndpoint)
    (hf : ∀ y ∈ before, y.Legible origin.config origin.room) :
    Candid x (∀ y ∈ after, y.Legible origin.config origin.room) := by
  cases h with
  | unsent h => exact iff_of_true rfl (h ▸ hf)
  | heard hurl _ h =>
    rw [h, List.forall_mem_append, List.forall_mem_singleton, and_iff_right hf]
    unfold Heard.Legible
    dsimp only
    rw [hurl, beq_false_of_ne hother]
    exact Reply.candid_answer _

/-- What a request gives keeps within the limits of reading. -/
theorem Hears.fits {endpoint : String} {v : Json}
    (h : Hears origin most endpoint before after (.ok v)) : v.Fits (origin.room + 1) := by
  generalize hx : Except.ok v = x at h
  cases h with
  | unsent => cases hx
  | heard =>
    obtain ⟨_, _, -, hd⟩ := Reply.decode_of_answer hx.symm
    exact fits_decode hd

end Hears

section Requests

variable [Transport τ] {origin : HttpClient τ} {most : Nat} {Inv : τ → Prop}
  {s : Logged (HttpClient (Overheard τ))}

/-- The states with `Inv` let a session be opened. -/
theorem Upholds.session (h : origin.Upholds most Inv) {c : HttpClient (Overheard τ)}
    (hc : Stays origin (Inv ∘ Overheard.inner) c) :
    c.sessionOpen = true ∨ c.checkCertificates = .ok () := by
  refine .inr ?_
  unfold checkCertificates
  split
  · rename_i path hp
    exact h.certificates hc.transport path (hc.config ▸ hp)
  · rfl

/-- Opening a session keeps the client, and nothing is heard. -/
theorem Upholds.opened (h : origin.Upholds most Inv) {c : HttpClient (Overheard τ)}
    (hc : Stays origin (Inv ∘ Overheard.inner) c) :
    Stays origin (Inv ∘ Overheard.inner) c.opened ∧
      c.opened.transport.heard = c.transport.heard := by
  unfold HttpClient.opened
  split
  · exact ⟨hc, rfl⟩
  · exact ⟨⟨hc.config, hc.token, hc.room, h.openSession hc.transport _⟩, rfl⟩

/-- A request that can be written is made of one reply, unless the client is closed. -/
theorem request_hears (h : origin.Upholds most Inv) (endpoint : String) {body : Json}
    (hb : body.Fits (origin.room + 1)) (hs : Stays origin (Inv ∘ Overheard.inner) s.state) :
    Ends (request endpoint body).outcome s
      (fun x t => Stays origin (Inv ∘ Overheard.inner) t.state ∧
        Hears origin most endpoint s.state.transport.heard t.state.transport.heard x)
      (fun _ _ => False) := by
  cases hc : s.state.closed with
  | true =>
    rw [ends_outcome]
    unfold request requireOpen
    rw [ends_bind, ends_bind, ends_look, hc, if_pos rfl]
    exact ends_fail.mpr ⟨hs, .unsent rfl⟩
  | false =>
    obtain ⟨hopened, hheard⟩ := h.opened hs
    have hwritten : (body.orElse (.obj [])).Fits (s.state.room + 1) := by
      rw [hs.room]
      exact hb.orElse (.obj fun _ h => nomatch h)
    refine (request_replies ⟨hc, h.session hs⟩ endpoint hwritten).mono ?_ fun _ _ h => h
    rintro _ t ⟨rfl, ht⟩
    obtain ⟨hlisted, hinv⟩ :=
      h.post hopened.transport (posting s.state.config s.state.token endpoint body)
    have hurl : (posting s.state.config s.state.token endpoint body).url =
        origin.config.urlFor endpoint := by rw [posting, hs.config]
    rw [ht, hs.room]
    refine ⟨⟨hopened.config, hopened.token, hopened.room, hinv⟩, .heard hurl hlisted ?_⟩
    rw [← hheard]
    rfl

/-- A request that creates no upload fails in a fault that is the library's own exactly where its
reply can be read. -/
theorem request_honest (h : origin.Upholds most Inv) {endpoint : String}
    (hother : origin.config.urlFor endpoint ≠ origin.config.urlFor createEndpoint) {body : Json}
    (hb : body.Fits (origin.room + 1)) (hs : Stays origin (Inv ∘ Overheard.inner) s.state)
    (hf : Understands origin s.state) :
    Ends (request endpoint body) s
      (fun answer t => answer.Fits (origin.room + 1) ∧
        Stays origin (Inv ∘ Overheard.inner) t.state ∧ Understands origin t.state)
      (fun e t => e.isOwn = true ↔ Understands origin t.state) :=
  (ends_outcome.mp (request_hears h endpoint hb hs)).mono
    (fun _ _ ⟨hs, hheard⟩ => ⟨hheard.fits, hs, hheard.candid hother hf⟩)
    fun _ _ ⟨_, hheard⟩ => hheard.candid hother hf

/-- Bytes of a part are sent, or refused in a fault of the library's own, if they have an
address. -/
theorem uploadPart_honest (h : origin.Upholds most Inv) (url : Json)
    (bytes : ByteArray) :
    Honest (Stays origin (Inv ∘ Overheard.inner)) (Understands origin) (uploadPart url bytes) := by
  intro s hs hf
  unfold uploadPart requireOpen
  rw [ends_bind, ends_bind, ends_look]
  split
  · exact ends_fail.mpr (iff_of_true rfl hf)
  rw [ends_pure, ends_bind]
  refine (ensureSession_opens (h.session hs)).mono ?_ fun _ _ h => h.elim
  rintro _ _ rfl
  obtain ⟨hm, hheard⟩ := h.opened hs
  generalize s.state.opened = c at hm hheard ⊢
  rw [ends_bind, ends_look]
  dsimp only
  rw [ends_bind, transact_ends]
  generalize Put.mk _ _ _ = put
  dsimp only
  have hkept : Stays origin (Inv ∘ Overheard.inner)
      { c with transport := (Transport.put put c.transport).2 } :=
    ⟨hm.config, hm.token, hm.room, h.put hm.transport put⟩
  -- whatever the reply is, it can be read
  have hread : Understands origin { c with transport := (Transport.put put c.transport).2 } ↔
      (Transport.put put c.transport).1.isSome = true := by
    unfold Understands
    change (∀ x ∈ c.transport.heard ++ [.put put (Transport.put put c.transport).1], _) ↔ _
    rw [List.forall_mem_append, List.forall_mem_singleton, hheard]
    exact and_iff_right hf
  generalize (Transport.put put c.transport).1 = reply at hread ⊢
  match reply with
  | none => exact ends_fail.mpr (iff_of_false Bool.false_ne_true fun h => nomatch hread.mp h)
  | some (.error text) => exact ends_networkFault.mpr (iff_of_true rfl (hread.mpr rfl))
  | some (.ok ⟨status, text⟩) =>
    dsimp only
    split
    · cases text with
      | error text => exact ends_networkFault.mpr (iff_of_true rfl (hread.mpr rfl))
      | ok text => exact ends_fail.mpr (iff_of_true rfl (hread.mpr rfl))
    · exact ends_pure.mpr ⟨hkept, hread.mpr rfl⟩

/-- Two endpoints have two addresses. -/
theorem urlFor_ne (config : HttpConfig) {e e' : String} (h : HttpConfig.isAddress e = false)
    (h' : HttpConfig.isAddress e' = false)
    (hne : HttpConfig.trimStart e ≠ HttpConfig.trimStart e') :
    config.urlFor e ≠ config.urlFor e' := by
  unfold HttpConfig.urlFor
  rw [if_neg (by simp [h]), if_neg (by simp [h'])]
  exact fun heq => hne ((String.append_right_inj _).mp heq)

/-- **A client is a service** that is fine as long as what it hears can be read. -/
theorem listens (h : origin.Upholds most Inv)
    {progress : Option (Progress (HttpClient (Overheard τ)))}
    (htold : ∀ tell ∈ progress, ∀ n,
      Honest (Stays origin (Inv ∘ Overheard.inner)) (Understands origin) (tell n)) :
    Listens progress (Stays origin (Inv ∘ Overheard.inner)) (Understands origin) origin.room
      most where
  create body s hb hs hf := by
    refine (request_hears h createEndpoint hb hs).mono ?_ fun _ _ h => h
    rintro x t ⟨ht, hheard⟩
    refine ⟨ht, hheard.clear_iff hf, fun reply hreply => ?_⟩
    cases hheard with
    | unsent => cases hreply
    | heard _ hlisted _ => exact (Reply.within_answer _ reply hreply).mono hlisted
  put := uploadPart_honest h
  complete driveId fileId uploadId s hdrive hfile hupload hs hf := by
    refine request_honest h (urlFor_ne _ (by decide) (by decide) (by decide)) (.obj ?_) hs hf
    simp only [List.forall_mem_cons]
    exact ⟨hdrive, hfile, hupload, fun _ h => nomatch h⟩
  told := htold

/-- An answer without a drive is a fault of the library's own. -/
theorem defaultDrive_honest (h : origin.Upholds most Inv)
    (hs : Stays origin (Inv ∘ Overheard.inner) s.state) (hf : Understands origin s.state) :
    Ends defaultDrive s
      (fun drive t => drive.Fits origin.room ∧ Stays origin (Inv ∘ Overheard.inner) t.state ∧
        Understands origin t.state)
      (fun e t => e.isOwn = true ↔ Understands origin t.state) := by
  unfold defaultDrive
  rw [ends_bind]
  refine (request_honest h (urlFor_ne _ (by decide) (by decide) (by decide)) .null hs hf).mono ?_
    fun _ _ he => he
  rintro answer t ⟨hfits, ht, hf⟩
  dsimp only
  split
  · exact ends_pure.mpr ⟨hfits.field "default_drive_id", ht, hf⟩
  · exact ends_fail.mpr (iff_of_true rfl hf)

end Requests

/-- The client over the same transport, overheard from now on. -/
def overheard (c : HttpClient τ) : HttpClient (Overheard τ) :=
  ⟨c.config, c.token, c.closed, c.sessionOpen, c.poolOpen, c.room, ⟨c.transport, []⟩⟩

end HttpClient

/-! ### Uploads overheard -/

/-- The same call to an overheard client. -/
def UploadCall.overheard (call : UploadCall ρ (HttpClient τ)) :
    UploadCall ρ (HttpClient (Overheard τ)) :=
  { call with progress := call.progress.map fun tell n => Act.within Overheard.theBare (tell n) }

theorem UploadCall.tellers_overheard : ∀ callback : Option (Progress (HttpClient τ)),
    Tellers True (HttpClient.Match Overheard.Overhears)
      (callback.map fun tell n => Act.within Overheard.theBare (tell n)) callback
  | none => .none
  | some _ => .some fun _ => Overheard.inStep_bare _

namespace Client

/-- The client over the same transport, overheard from now on. -/
def overheard (c : Client (HttpClient τ)) : Client (HttpClient (Overheard τ)) :=
  ⟨c.account.overheard, c.disk, c.driveId, c.uploads⟩

variable [Reader ρ] [Transport τ]

/-- What an upload hears, in order. -/
def hears (call : UploadCall ρ (HttpClient τ)) (s : Logged (Client (HttpClient τ))) : List Heard :=
  (left (upload call.overheard) ⟨s.state.overheard, s.log⟩).account.transport.heard

/-- An overheard upload ends as it does. -/
theorem inStep_overheard (call : UploadCall ρ (HttpClient τ)) :
    InStep Eq (Told (Match (HttpClient.Match Overheard.Overhears))) (upload call.overheard)
      (upload call) :=
  inStep_upload (HttpClient.inStep_defaultDrive Overheard.transports_overhears
      fun hk => HttpClient.posting_eq hk _ _ _)
    (HttpClient.services_match Overheard.transports_overhears)
    ⟨rfl, rfl, UploadCall.tellers_overheard _, fun disk => Source.inStep_resolve disk _ _ _⟩

end Client

/-- The caller's side is in order for an upload of some bytes: they have a name and a size within
the reach of files, a proof can be given with the token, a drive that is given can be sent, nothing
of the upload's own is in the way, the callback keeps the client and fails in faults of the
library's own, and the transport is in one of the states that uphold what an upload needs of it. -/
structure UploadCall.Sound [Transport τ] (call : UploadCall ρ (HttpClient τ))
    (s : Client (HttpClient τ)) (content : ByteArray) (most : Nat) (Inv : τ → Prop) : Prop where
  origin : call.origin = .bytes content
  named : Source.given call.name "" ≠ ""
  sized : ∃ n : Nat, call.size.getD content.size = n ∧ n ≤ s.disk.limits.reach
  token : (Text.utf8? (s.account.token.getD "")).isSome = true
  room : 2 ≤ s.account.room
  drive : s.driveId.Fits s.account.room
  able : s.uploads.Able s.disk most
  told : ∀ tell ∈ call.progress, ∀ n t, s.account.Stays Inv t.state → Ends (tell n) t
    (fun _ t => s.account.Stays Inv t.state)
    (fun e t => e.isOwn = true ∧ s.account.Stays Inv t.state)
  upholds : s.account.Upholds most Inv
  transport : Inv s.account.transport

namespace Client

open HttpClient

variable [Reader ρ] [Transport τ] {call : UploadCall ρ (HttpClient τ)} {origin : HttpClient τ}
  {most : Nat} {Inv : τ → Prop}

/-- A drive is looked up in a fault of the library's own, or answers that can be read. -/
theorem connect_honest (h : origin.Upholds most Inv)
    {s : Logged (Client (HttpClient (Overheard τ)))}
    (hdrive : s.state.driveId.Fits origin.room)
    (hs : Stays origin (Inv ∘ Overheard.inner) s.state.account)
    (hf : Understands origin s.state.account) :
    Ends connect s
      (fun drive t => drive.Fits origin.room ∧
        Stays origin (Inv ∘ Overheard.inner) t.state.account ∧
        Understands origin t.state.account ∧ t.state.disk = s.state.disk ∧
        t.state.uploads = s.state.uploads)
      (fun e t => e.isOwn = true ↔ Understands origin t.state.account) := by
  unfold connect
  rw [ends_bind, ends_look]
  split
  · rw [ends_bind, ends_part]
    refine (defaultDrive_honest h hs hf).mono ?_ fun _ _ he => he
    rintro drive t ⟨hfits, hs, hf⟩
    rw [ends_bind, ends_change, ends_bind, ends_tell, ends_bind, ends_look, ends_pure]
    exact ⟨hfits, hs, hf, rfl, rfl⟩
  · rw [ends_bind, ends_look, ends_pure]
    exact ⟨hdrive, hs, hf, rfl, rfl⟩

/-- An overheard upload ends in a report, or in a fault that is the library's own exactly where all
that it heard can be read. -/
theorem overheard_honest {s : Logged (Client (HttpClient τ))} {content : ByteArray}
    (h : call.Sound s.state content most Inv) :
    Ends (upload call.overheard) ⟨s.state.overheard, s.log⟩
      (fun _ t => Understands s.state.account t.state.account)
      (fun e t => e.isOwn = true ↔ Understands s.state.account t.state.account) := by
  obtain ⟨n, hsize, hn⟩ := h.sized
  have hlistens : Listens call.overheard.progress
      (Stays s.state.account (Inv ∘ Overheard.inner)) (Understands s.state.account)
      s.state.account.room most := by
    refine listens h.upholds fun tell htell n t ht hf => ?_
    obtain ⟨tell', htell', rfl⟩ := Option.map_eq_some_iff.mp htell
    rw [ends_part]
    -- the callback gets the client alone, and what was heard stays as it is
    refine (h.told tell' htell' n ⟨Overheard.theBare.get t.state, t.log⟩
      ⟨ht.config, ht.token, ht.room, ht.transport⟩).mono ?_ ?_
    · exact fun _ u hu => ⟨⟨hu.config, hu.token, hu.room, hu.transport⟩, hf⟩
    · exact fun e u ⟨hown, _⟩ => iff_of_true hown hf
  unfold upload
  rw [ends_bind]
  have hstays : Stays s.state.account (Inv ∘ Overheard.inner) s.state.overheard.account :=
    ⟨rfl, rfl, rfl, h.transport⟩
  have hsilent : Understands s.state.account s.state.overheard.account := fun _ h => nomatch h
  refine (connect_honest h.upholds (s := ⟨s.state.overheard, s.log⟩) h.drive hstays hsilent).mono
    ?_ fun _ _ he => he
  rintro drive t ⟨hdrive, ht, hf, hdisk, huploads⟩
  rw [ends_bind, ends_look, ends_part]
  refine Coordinator.upload_honest hlistens h.room hdrive (n := n) ?_ h.origin h.named hsize
    (Nat.lt_of_le_of_lt hn s.state.disk.limits.reach_lt) ?_ ht hf
  · change t.state.uploads.Able t.state.disk most
    rw [huploads, hdisk]
    exact h.able
  · intro a ha
    have htoken : DriveService.heldToken a = s.state.account.token.getD "" :=
      congrArg (Option.getD · "") ha.token
    have hreach : t.state.disk.limits = s.state.disk.limits := congrArg Disk.limits hdisk
    change Possession.Provable t.state.disk.limits.reach _ _
    rw [htoken, hreach]
    exact Possession.provable h.token hn

/-- **Errors of the library's own.**  An upload of bytes, with the caller's side in order, ends in a
report or in a fault of the library's own exactly where all that it heard can be read. -/
theorem upload_own {s : Logged (Client (HttpClient τ))} {content : ByteArray}
    (h : call.Sound s.state content most Inv) :
    (∀ e t, upload call s = .error e t → e.isOwn = true) ↔
      ∀ x ∈ hears call s, x.Legible s.state.account.config s.state.account.room := by
  have hends := overheard_honest h
  have halike := inStep_overheard call ⟨s.state.overheard, s.log⟩ s
    (.mk (.mk _ _ _ (.mk _ _ _ _ _ _ rfl)) s.log)
  unfold hears left
  generalize hx : upload call.overheard ⟨s.state.overheard, s.log⟩ = x at halike
  generalize upload call s = y at halike
  cases halike with
  | ok => exact iff_of_true (fun _ _ h => nomatch h) (ends_of_ok hends hx)
  | error e =>
    refine Iff.trans ⟨fun h => h e _ rfl, fun h e' _ he => ?_⟩ (ends_of_error hends hx)
    cases he
    exact h

end Client

namespace Rehearsal

/-- A client of a drive, over a transport with some replies. -/
def caller (replies : List Reply) : Logged (Client (HttpClient Wire)) :=
  ⟨⟨.new (some "token") .standard ⟨replies, true, roomy⟩, roomy, "drive", pairs.config⟩, #[]⟩

/-- An upload of the two bytes from memory. -/
def pairBytes : UploadCall Stream (HttpClient Wire) :=
  ⟨.bytes pair.bytes, "root", some "pair", none, none, none⟩

theorem able_roomy : pairs.config.Able roomy 1 :=
  ⟨usable_roomy, by decide, by decide, by decide +kernel⟩

/-- The caller's side is in order where no reply lists more than one part. -/
theorem sound_caller {replies : List Reply}
    (h : ∀ reply ∈ replies, Reply.listed Json.depthLimit reply ≤ 1) :
    pairBytes.Sound (caller replies).state pair.bytes 1 fun w =>
      ∀ reply ∈ w.replies, Reply.listed Json.depthLimit reply ≤ 1 where
  origin := rfl
  named := by decide
  sized := ⟨2, rfl, (by decide : 2 ≤ roomy.limits.reach)⟩
  token := (by decide +kernel : (Text.utf8? "token").isSome = true)
  room := (by decide : 2 ≤ Json.depthLimit)
  drive := .str "drive"
  able := able_roomy
  told _ h := nomatch h
  upholds := by
    have next : ∀ {w : Wire}, (∀ reply ∈ w.replies, Reply.listed Json.depthLimit reply ≤ 1) →
        Reply.listed Json.depthLimit w.next.1 ≤ 1 ∧
          ∀ reply ∈ w.next.2.replies, Reply.listed Json.depthLimit reply ≤ 1 := by
      rintro ⟨_ | ⟨reply, replies⟩, _, _⟩ h
      · exact ⟨Nat.zero_le _, h⟩
      · exact List.forall_mem_cons.mp h
    exact ⟨fun _ _ h => (nomatch h), fun h _ => h, fun h _ => next h, fun h _ => (next h).2⟩
  transport := h

end Rehearsal

namespace Client

open Rehearsal

/-- An upload that gets all it asks for hears three replies that can be read. -/
theorem upload_own_pair :
    let answer := "\x7b\"file_id\": \"file\", \"upload_id\": \"upload\", \"part_info_list\": " ++
      "[\x7b\"part_number\": 1, \"upload_url\": \"part\"\x7d]\x7d"
    let s := caller [.ok ⟨200, .ok answer⟩, .ok ⟨200, .ok ""⟩,
      .ok ⟨200, .ok "\x7b\"file_id\": \"file\"\x7d"⟩]
    (hears pairBytes s).length = 3 ∧
      ∀ x ∈ hears pairBytes s, x.Legible s.state.account.config s.state.account.room := by
  intro answer s
  have hsent : (match upload pairBytes s with | .ok _ _ => true | .error _ _ => false) = true := by
    decide +kernel
  refine ⟨by decide +kernel, (upload_own (sound_caller ?_)).mp ?_⟩
  · decide +kernel
  · intro e t he
    rw [he] at hsent
    cases hsent

/-- An answer whose list of parts is a number is no fault of the library's own. -/
theorem upload_unlisted :
    let s := caller [.ok ⟨200, .ok "\x7b\"part_info_list\": 5\x7d"⟩]
    ∃ e t, upload pairBytes s = .error e t ∧ e.isOwn = false := by
  intro s
  have hown : (match upload pairBytes s with
      | .ok _ _ => true
      | .error e _ => e.isOwn) = false := by
    decide +kernel
  cases hx : upload pairBytes s with
  | ok =>
    rw [hx] at hown
    cases hown
  | error e t =>
    rw [hx] at hown
    exact ⟨e, t, rfl, hown⟩

end Client

end RapidUpload
