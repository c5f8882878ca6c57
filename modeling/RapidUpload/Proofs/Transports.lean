import RapidUpload.Client
import RapidUpload.Http.Client
import RapidUpload.Proofs.Fitting
import RapidUpload.Proofs.Sessions
import RapidUpload.Proofs.Independence

/-!
# Clients in step

A client looks into its transport only through what it makes it do.  So two clients go in step where
their transports do the same, and one of the transports may keep a record besides.  The clients may
hold two tokens where the transports take their posts alike.

* `Transports K D V`: transports related by `V` do the same, and stay related, when they are given
  posts related by `D`; `K` says which tokens the clients hold under which settings.
* `HttpClient.Twins K V`: two clients that differ in their tokens and their transports alone.
* `HttpClient.Match V`: two clients that differ in their transports alone.
* `HttpClient.services_match`: such clients are related services.
* `Client.upload_beside`: uploads of clients of one drive go in step where their accounts do.
-/

namespace RapidUpload

open Step

variable {ρ τ υ α α' β : Type}

/-- Related transports do the same, and stay related. -/
structure Transports [Transport τ] [Transport υ]
    (K : HttpConfig → Option String → Option String → Prop) (D : Post → Post → Prop)
    (V : τ → υ → Prop) : Prop where
  certificates : ∀ {t u} path, V t u →
    Transport.loadCertificates path t = Transport.loadCertificates path u
  openSession : ∀ {t u config token token'}, K config token token' → V t u →
    V (Transport.openSession (HttpClient.sessionSettings config) t)
      (Transport.openSession (HttpClient.sessionSettings config) u)
  closeSession : ∀ {t u}, V t u → (Transport.closeSession t).1 = (Transport.closeSession u).1 ∧
    V (Transport.closeSession t).2 (Transport.closeSession u).2
  closePool : ∀ {t u}, V t u → V (Transport.closePool t) (Transport.closePool u)
  post : ∀ {t u p q}, D p q → V t u → (Transport.post p t).1 = (Transport.post q u).1 ∧
    V (Transport.post p t).2 (Transport.post q u).2
  put : ∀ {t u} p, V t u → (Transport.put p t).1 = (Transport.put p u).1 ∧
    V (Transport.put p t).2 (Transport.put p u).2

namespace HttpClient

/-- The clients differ in their tokens and their transports alone: these are related, and the
tokens as well, under the settings of the clients. -/
inductive Twins (K : HttpConfig → Option String → Option String → Prop) (V : τ → υ → Prop) :
    HttpClient τ → HttpClient υ → Prop where
  | mk {config : HttpConfig} {token token' : Option String} (hk : K config token token')
    (closed sessionOpen poolOpen : Bool) (room : Nat) {t : τ} {u : υ} (h : V t u) :
    Twins K V ⟨config, token, closed, sessionOpen, poolOpen, room, t⟩
      ⟨config, token', closed, sessionOpen, poolOpen, room, u⟩

/-- The clients differ in their transports alone, and those are related. -/
abbrev Match (V : τ → υ → Prop) : HttpClient τ → HttpClient υ → Prop := Twins (fun _ => Eq) V

theorem Match.mk {V : τ → υ → Prop} (config : HttpConfig) (token : Option String)
    (closed sessionOpen poolOpen : Bool) (room : Nat) {t : τ} {u : υ} (h : V t u) :
    Match V ⟨config, token, closed, sessionOpen, poolOpen, room, t⟩
      ⟨config, token, closed, sessionOpen, poolOpen, room, u⟩ :=
  Twins.mk rfl closed sessionOpen poolOpen room h

/-- What a client posts. -/
def posting (config : HttpConfig) (token : Option String) (endpoint : String) (body : Json) :
    Post :=
  ⟨config.urlFor endpoint, (body.orElse (.obj [])).wire,
    ("Content-Type", "application/json") :: authorization token, config.proxy⟩

/-- A body that is written is what the line of its value has, and keeps within the limits. -/
theorem encode_ok {room : Nat} {body : Json} {data : String} (h : encode room body = .ok data) :
    data = (body.orElse (.obj [])).wire ∧ Json.Fits (room + 1) (body.orElse (.obj [])) := by
  unfold encode at h
  split at h
  · cases h
    exact Json.write_ok ‹_›
  · cases h
  · cases h

/-- Just the bodies that keep within the limits are written. -/
theorem encode_iff {room : Nat} {body : Json} :
    encode room body = .ok (body.orElse (.obj [])).wire ↔
      Json.Fits (room + 1) (body.orElse (.obj [])) := by
  refine ⟨fun h => (encode_ok h).2, fun h => ?_⟩
  rw [encode, Json.write_iff.mpr h]

/-- Why a body is not written is no fault of the library's own. -/
theorem isOwn_encode {room : Nat} {body : Json} {e : Fault} (h : encode room body = .error e) :
    e.isOwn = false := by
  unfold encode at h
  split at h <;> cases h <;> rfl

section Steps

variable {told : Prop} {K : HttpConfig → Option String → Option String → Prop}
  {D : Post → Post → Prop} {V : τ → υ → Prop}

/-- A step that does the same to both transports. -/
theorem inStep_transact {f : τ → β × τ} {g : υ → β × υ}
    (h : ∀ {t u}, V t u → (f t).1 = (g u).1 ∧ V (f t).2 (g u).2) :
    InStep Eq (Beside told (Twins K V)) (transact f) (transact g) := by
  rintro ⟨_, log⟩ ⟨_, log'⟩ ⟨⟨hk, closed, sessionOpen, poolOpen, room, hV⟩, hlog⟩
  rename_i config token token' t u
  obtain ⟨hb, hV'⟩ := h hV
  have ht : Ends (transact f) ⟨⟨config, token, closed, sessionOpen, poolOpen, room, t⟩, log⟩
      (fun b s => b = (f t).1 ∧
        s = ⟨⟨config, token, closed, sessionOpen, poolOpen, room, (f t).2⟩, log⟩)
      fun _ _ => False := transact_ends.mpr ⟨rfl, rfl⟩
  have hu : Ends (transact g) ⟨⟨config, token', closed, sessionOpen, poolOpen, room, u⟩, log'⟩
      (fun b s => b = (g u).1 ∧
        s = ⟨⟨config, token', closed, sessionOpen, poolOpen, room, (g u).2⟩, log'⟩)
      fun _ _ => False := transact_ends.mpr ⟨rfl, rfl⟩
  refine Alike.of_ends ht hu ?_
  rintro _ _ _ _ ⟨rfl, rfl⟩ ⟨rfl, rfl⟩
  exact ⟨hb, .mk (.mk hk _ _ _ _ hV') hlog⟩

theorem inStep_networkFault (lead text : String) :
    InStep Eq (Beside told (Twins K V)) (networkFault lead text : Act (HttpClient τ) β)
      (networkFault lead text : Act (HttpClient υ) β) :=
  (inStep_tell _ _ _).bind fun _ _ _ => inStep_fail _

theorem inStep_requireOpen :
    InStep Eq (Beside told (Twins K V)) (requireOpen : Act (HttpClient τ) Unit)
      (requireOpen : Act (HttpClient υ) Unit) := by
  refine inStep_look.bind ?_
  rintro _ _ ⟨⟩
  exact InStep.ite (inStep_fail _) (inStep_pure rfl)

variable [Transport τ] [Transport υ] (hV : Transports K D V)

include hV

/-- The same certificates load, or do not. -/
theorem Twins.checkCertificates {c : HttpClient τ} {d : HttpClient υ} (h : Twins K V c d) :
    c.checkCertificates = d.checkCertificates := by
  obtain ⟨_, _, _, _, _, h⟩ := h
  unfold HttpClient.checkCertificates
  dsimp only
  split
  · exact hV.certificates _ h
  · rfl

theorem inStep_ensureSession :
    InStep Eq (Beside told (Twins K V)) (ensureSession : Act (HttpClient τ) Unit)
      (ensureSession : Act (HttpClient υ) Unit) := by
  refine inStep_look.bind fun c d hcd => ?_
  rw [hcd.checkCertificates hV]
  cases hcd
  refine InStep.ite ((inStep_ofExcept _).bind fun _ _ _ => inStep_change ?_) (inStep_pure rfl)
  rintro _ _ ⟨hk, _, _, _, _, h⟩
  exact .mk hk _ _ _ _ (hV.openSession hk h)

theorem inStep_close :
    InStep Eq (Beside told (Twins K V)) (close : Act (HttpClient τ) Unit)
      (close : Act (HttpClient υ) Unit) := by
  have pool : InStep Eq (Beside told (Twins K V))
      (do if (← Act.look).poolOpen then
            Act.change fun c : HttpClient τ =>
              { c with poolOpen := false, transport := Transport.closePool c.transport })
      (do if (← Act.look).poolOpen then
            Act.change fun c : HttpClient υ =>
              { c with poolOpen := false, transport := Transport.closePool c.transport }) := by
    refine inStep_look.bind ?_
    rintro _ _ ⟨⟩
    refine InStep.ite (inStep_change ?_) (inStep_pure rfl)
    rintro _ _ ⟨hk, _, _, _, _, h⟩
    exact .mk hk _ _ _ _ (hV.closePool h)
  have marked : InStep Eq (Beside told (Twins K V))
      (Act.change fun c : HttpClient τ => { c with closed := true })
      (Act.change fun c : HttpClient υ => { c with closed := true }) := by
    refine inStep_change ?_
    rintro _ _ ⟨hk, _, _, _, _, h⟩
    exact .mk hk _ _ _ _ h
  refine marked.bind fun _ _ _ => inStep_look.bind ?_
  rintro _ _ ⟨⟩
  refine InStep.ite ((inStep_transact hV.closeSession).bind ?_) pool
  rintro withPool _ rfl
  refine (inStep_change ?_).bind fun _ _ _ => pool
  rintro _ _ ⟨hk, _, _, _, _, h⟩
  exact .mk hk _ _ _ _ h

/-- Two bodies are posted in step where they are written alike and the posts are related; where
`told` holds they are one body. -/
theorem inStep_request {endpoint : String} {body body' : Json}
    (hD : ∀ {config token token'}, K config token token' →
      D (posting config token endpoint body) (posting config token' endpoint body'))
    (he : ∀ room, (encode room body).map (fun _ => ()) = (encode room body').map fun _ => ())
    (hb : told → body = body') :
    InStep Eq (Beside told (Twins K V)) (request endpoint body : Act (HttpClient τ) Json)
      (request endpoint body' : Act (HttpClient υ) Json) := by
  refine inStep_requireOpen.bind fun _ _ _ => (inStep_ensureSession hV).bind fun _ _ _ =>
    inStep_look.bind ?_
  rintro _ _ ⟨hk, _, _, _, room, _⟩
  refine (inStep_ofExcept_apart (he room)).bind ?_
  rintro data data' ⟨hd, hd'⟩
  obtain rfl := (encode_ok hd).1
  obtain rfl := (encode_ok hd').1
  refine (inStep_tell _ _ _).bind fun _ _ _ =>
    (inStep_tell_apart fun ht => by rw [hb ht]).bind
    fun _ _ _ => (inStep_transact (hV.post (hD hk))).bind ?_
  rintro reply _ rfl
  match reply with
  | .error text => exact inStep_networkFault _ _
  | .ok ⟨_, .error text⟩ => exact inStep_networkFault _ _
  | .ok ⟨status, .ok text⟩ =>
    refine (inStep_tell _ _ _).bind fun _ _ _ => (inStep_ofExcept _).bind ?_
    rintro value _ rfl
    refine InStep.ite ((inStep_ofExcept _).bind ?_) (inStep_pure rfl)
    rintro r _ rfl
    exact (inStep_tell _ _ _).bind fun _ _ _ => inStep_fail _

theorem inStep_uploadPart (url : Json) (data : ByteArray) :
    InStep Eq (Beside told (Twins K V)) (uploadPart url data : Act (HttpClient τ) Unit)
      (uploadPart url data : Act (HttpClient υ) Unit) := by
  refine inStep_requireOpen.bind fun _ _ _ => (inStep_ensureSession hV).bind fun _ _ _ =>
    inStep_look.bind ?_
  rintro _ _ ⟨⟩
  refine (inStep_transact (hV.put _)).bind ?_
  rintro reply _ rfl
  match reply with
  | none => exact inStep_fail _
  | some (.error text) => exact inStep_networkFault _ _
  | some (.ok ⟨status, text⟩) =>
    refine InStep.ite ?_ (inStep_pure rfl)
    cases text with
    | error text => exact inStep_networkFault _ _
    | ok text => exact inStep_fail _

theorem inStep_defaultDrive
    (hD : ∀ {config token token'}, K config token token' →
      D (posting config token accountEndpoint .null)
        (posting config token' accountEndpoint .null)) :
    InStep Eq (Beside told (Twins K V)) (defaultDrive : Act (HttpClient τ) Json)
      (defaultDrive : Act (HttpClient υ) Json) := by
  refine (inStep_request hV hD (fun _ => rfl) fun _ => rfl).bind ?_
  rintro answer _ rfl
  exact InStep.ite (inStep_pure rfl) (inStep_fail _)

end Steps

/-- Posts of one token are the same. -/
theorem posting_eq {token token' : Option String} (h : token = token') (config : HttpConfig)
    (endpoint : String) (body : Json) :
    posting config token endpoint body = posting config token' endpoint body := by
  rw [h]

/-- **Clients that differ in their transports alone are related services.** -/
theorem services_match [Transport τ] [Transport υ] {V : τ → υ → Prop}
    (hV : Transports (fun _ => Eq) Eq V) : Services (Match V) where
  accessToken h := by
    cases h with
    | mk hk => exact hk
  createUpload body :=
    inStep_request hV (fun hk => posting_eq hk _ _ body) (fun _ => rfl) fun _ => rfl
  uploadPart url bytes := inStep_uploadPart hV url bytes
  completeUpload _ _ _ :=
    inStep_request hV (fun hk => posting_eq hk _ _ _) (fun _ => rfl) fun _ => rfl

end HttpClient

/-! ### Clients of a drive -/

namespace Client

/-- The clients differ in their accounts alone, and those are related. -/
inductive Match (V : α → α' → Prop) : Client α → Client α' → Prop where
  | mk (disk : Disk) (driveId : Json) (uploads : UploadConfig) {a : α} {a' : α'} (h : V a a') :
    Match V ⟨a, disk, driveId, uploads⟩ ⟨a', disk, driveId, uploads⟩

section Uploads

variable {told : Prop} {V : α → α' → Prop}

theorem follows_account : Follows (Match V) V theAccount theAccount where
  get := by rintro _ _ ⟨_, _, _, h⟩; exact h
  set := by rintro _ _ _ _ ⟨_, _, _, _⟩ h; exact .mk _ _ _ h

theorem follows_site : Follows (Match V) (Site.Match V) site site where
  get := by rintro _ _ ⟨_, _, _, h⟩; exact ⟨h, rfl⟩
  set := by
    rintro _ _ ⟨_, _⟩ ⟨_, _⟩ ⟨_, _, _, _⟩ ⟨h, hdisk⟩
    cases hdisk
    exact .mk _ _ _ h

/-- Connecting leaves the disk as it is. -/
theorem connect_disk [DriveAccount α] (s : Logged (Client α)) :
    Ends connect s (fun _ t => t.state.disk = s.state.disk) fun _ _ => True := by
  unfold connect
  rw [ends_bind, ends_look]
  split
  · rw [ends_bind, ends_part]
    refine (ends_run _ _).mono ?_ fun _ _ _ => trivial
    rintro drive account -
    rw [ends_bind, ends_change, ends_bind, ends_tell, ends_bind, ends_look, ends_pure]
    rfl
  · rw [ends_bind, ends_look, ends_pure]

variable [DriveAccount α] [DriveAccount α']
  (hdrive : InStep Eq (Beside told V) (DriveAccount.defaultDrive : Act α Json)
    DriveAccount.defaultDrive)

include hdrive

theorem inStep_connect :
    InStep Eq (Beside told (Match V)) (connect : Act (Client α) Json)
      (connect : Act (Client α') Json) := by
  have known : InStep Eq (Beside told (Match V))
      (do return (← Act.look).driveId : Act (Client α) Json)
      (do return (← Act.look).driveId : Act (Client α') Json) := by
    refine inStep_look.bind ?_
    rintro _ _ ⟨⟩
    exact inStep_pure rfl
  refine inStep_look.bind ?_
  rintro _ _ ⟨⟩
  refine InStep.ite ((hdrive.part follows_account).bind ?_) known
  rintro drive _ rfl
  refine (inStep_change ?_).bind fun _ _ _ => (inStep_tell _ _ _).bind fun _ _ _ => known
  rintro _ _ ⟨_, _, _, h⟩
  exact .mk _ _ _ h

/-- **Uploads of clients go in step** where their accounts do, over a disk whose files have the
limits, and the calls ask for the same. -/
theorem upload_beside [Reader ρ] {limits : FileLimits} {Sized : Int → Prop}
    (hV : Peers told limits Sized V) {call : UploadCall ρ α} {call' : UploadCall ρ α'}
    (hcall : call.Match told Eq V call') (hsize : call.Opens Sized) {s : Logged (Client α)}
    {t : Logged (Client α')} (hst : Beside told (Match V) s t)
    (hlimits : s.state.disk.limits = limits) :
    Alike Eq (Beside told (Match V)) (upload call s) (upload call' t) := by
  unfold upload
  refine (((inStep_connect hdrive) s t hst).and_left (connect_disk s)).bind ?_ fun _ _ h => h
  rintro drive _ s t ⟨⟨rfl, hst⟩, hdisk⟩
  have hlimits : s.state.disk.limits = limits := by rw [hdisk, hlimits]
  obtain ⟨hclients, hlog⟩ := hst
  obtain ⟨disk, driveId, uploads, haccount⟩ := hclients
  exact (Coordinator.upload_beside (streams_eq _) hV hcall hsize (.mk ⟨haccount, rfl⟩ hlog)
    hlimits).part fun _ _ h => follows_site.set _ _ _ _ (.mk _ _ _ haccount) h

end Uploads

/-- So do they where the accounts hold one token, and the same lines are told then. -/
theorem inStep_upload [Reader ρ] [DriveAccount α] [DriveAccount α'] {V : α → α' → Prop}
    (hdrive : InStep Eq (Told V) (DriveAccount.defaultDrive : Act α Json) DriveAccount.defaultDrive)
    (hV : Services V) {call : UploadCall ρ α} {call' : UploadCall ρ α'}
    (hcall : call.Match True Eq V call') :
    InStep Eq (Told (Match V)) (upload call) (upload call') := fun s _ hst =>
  upload_beside hdrive (hV.peers s.state.disk.limits) hcall call.opens hst rfl

end Client

end RapidUpload
