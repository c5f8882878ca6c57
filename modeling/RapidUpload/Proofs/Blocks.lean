import RapidUpload.Command.Run
import RapidUpload.Console.Print
import RapidUpload.Proofs.Lifetime
import RapidUpload.Proofs.Operations

/-!
# Blocks

A block connects a client, does what it is for, and closes the client.  A client that cannot connect
is not closed, and the lookup may have opened a session by then.

* `Coordinator.carries_upload`: an upload brings its service where its calls bring it.
* `Block`: what is done between connecting and closing.
* `Program.blocks_return`: a block and a run of the program close all their sessions exactly where
  they can connect or open none.
-/

namespace RapidUpload

open Step

variable {ρ α β τ : Type}

/-! ### Uploads and their service -/

/-- The states are related, whatever was told. -/
def Silent (R : α → α → Prop) (s t : Logged α) : Prop := R s.state t.state

/-- A relation that adds up, and that all calls of an upload carry. -/
structure Serves [DriveService α] (progress : Option (Progress α)) (R : α → α → Prop) : Prop
    extends Onward R where
  create : ∀ body, Carries (Silent R) (DriveService.createUpload body)
  put : ∀ url bytes, Carries (Silent R) (DriveService.uploadPart url bytes)
  complete : ∀ driveId fileId uploadId,
    Carries (Silent R) (DriveService.completeUpload driveId fileId uploadId)
  told : ∀ tell ∈ progress, ∀ n, Carries (Silent R) (tell n)

theorem Step.Onward.silent {R : α → α → Prop} (h : Onward R) : Onward (Silent R) :=
  ⟨fun s => h.refl s.state, fun hst htu => h.trans hst htu⟩

section Serving

variable [DriveService α] {progress : Option (Progress α)} {R : α → α → Prop}

theorem Serves.calm (h : Serves progress R) : Calm progress (Silent R) where
  toOnward := h.toOnward.silent
  tell s _ _ := h.refl s.state
  create := h.create
  put := h.put
  told := h.told

/-- By the time the full hash is due, only calls were made. -/
theorem Serves.due (h : Serves progress R) {rapid : Bool} {request : Request} {a m : Logged α}
    (hd : Negotiator.Due rapid request (Silent R) a m) : Silent R a m := by
  cases hd with
  | alone _ hm => exact hm
  | challenged made _ _ before after =>
    have hcall := ends_of_ok ((h.create _).outcome _) made
    exact h.trans before (h.trans hcall after)

/-- Whatever becomes of the temp file, the service is brought where calls bring it. -/
theorem Serves.life (h : Serves progress R) {rapid : Bool} {request : Request}
    {s t : Logged (Scene ρ α)}
    (hl : Scene.Life (Negotiator.Due rapid request (Silent R) (Scene.plain s)) (Silent R) s t) :
    R s.state.service t.state.service := by
  cases hl with
  | unmade hk => exact hk.service
  | made due _ _ after => exact h.trans (h.due due) after

/-- **An upload brings its service where its calls bring it.** -/
theorem Coordinator.carries_upload [Reader ρ] (c : Coordinator) (call : UploadCall ρ α)
    (h : Serves call.progress R) :
    Carries (Silent fun s t : Site α => R s.service t.service) (c.upload call) := by
  have hs : Onward (Silent fun s t : Site α => R s.service t.service) :=
    Onward.silent ⟨fun s => h.refl s.service, fun hst htu => h.trans hst htu⟩
  have tell : ∀ {level channel pieces}, Carries
      (Silent fun s t : Site α => R s.service t.service) (Act.tell level channel pieces) :=
    carries_tell fun s => hs.refl s
  refine hs.bind hs.look fun site =>
    hs.bind (Source.carries_enter hs (fun s _ _ => hs.refl s) _ _ _ _) fun source =>
    hs.bind (hs.ofExcept _) fun size => hs.bind tell fun _ =>
    hs.bind (fun s => Site.ends_withScene.mpr ?_) fun delivered => ?_
  · refine (c.life_deliver h.calm _ _ source.stream _).mono (fun _ _ hl => h.life hl) ?_
    rintro e t (hl | hunopened)
    · exact h.life hl
    · exact h.due hunopened.due
  · dsimp only
    split
    · rename_i session _ _
      have completed := Completion.carries_complete h.toOnward.silent (fun s _ _ => h.refl s.state)
        h.complete c.driveId session
      exact hs.bind (carries_part completed fun _ _ hst => hst) fun _ =>
        hs.bind tell fun _ => hs.pure _
    · exact hs.pure _

end Serving

/-! ### Clients -/

namespace HttpClient

variable [Transport τ]

theorem moves_request (endpoint : String) (body : Json) :
    Carries Moves (request endpoint body : Act (HttpClient (Metered τ)) Json) :=
  moves_of_call (request_ends endpoint body)

/-- The calls of an upload bring the connections to where a client can bring them. -/
theorem serves_moves {progress : Option (Progress (HttpClient (Metered τ)))}
    (h : ∀ tell ∈ progress, ∀ n, Carries Moves (tell n)) :
    Serves progress fun c d : HttpClient (Metered τ) => Books.Reaches c.books d.books where
  refl _ := .refl
  trans h h' := h.trans h'
  create _ := moves_request _ _
  put url bytes := moves_of_call (uploadPart_ends url bytes)
  complete _ _ _ := moves_request _ _
  told := h

/-- A session is open, or the next request opens one. -/
def CanOpen (c : HttpClient τ) : Prop :=
  c.sessionOpen = true ∨ c.closed = false ∧ c.checkCertificates = .ok ()

/-- A lookup that fails leaves a session open exactly where it can open one. -/
theorem defaultDrive_ends (s : Logged (HttpClient (Metered τ))) :
    Ends defaultDrive s (fun _ t => Moves s t)
      (fun _ t => Moves s t ∧ (t.state.sessionOpen = true ↔ s.state.CanOpen)) := by
  have left : ∀ {t}, Served s t → Moves s t ∧ (t.state.sessionOpen = true ↔ s.state.CanOpen) :=
    fun h => ⟨h.moves, fun _ => h.session.imp_right fun hc => ⟨h.closed, hc⟩, fun _ => h.isOpen⟩
  unfold defaultDrive
  rw [ends_bind]
  refine (request_ends accountEndpoint .null s).mono ?_ ?_
  · intro answer t h
    dsimp only
    split
    · exact ends_pure.mpr h.moves
    · exact ends_fail.mpr (left h)
  · rintro e t (h | ⟨hu, rfl⟩)
    · exact left h
    · refine ⟨.refl, .inl, ?_⟩
      rintro (hopen | ⟨hclosed, hload⟩)
      · exact hopen
      · cases hu with
        | closed h => cases hclosed.symm.trans h
        | unopened _ _ he => cases hload.symm.trans he

end HttpClient

namespace Client

/-- The connections of a client come to where a client can bring them. -/
def Moves (s t : Logged (Client (HttpClient (Metered τ)))) : Prop :=
  Books.Reaches s.state.account.books t.state.account.books

theorem onward_moves : Onward (Moves (τ := τ)) := ⟨fun _ => .refl, fun h h' => h.trans h'⟩

/-- What is done to the account. -/
theorem moves_account {a : Act (HttpClient (Metered τ)) β} (ha : Carries HttpClient.Moves a) :
    Carries Moves (Act.within theAccount a) := carries_part ha fun _ _ h => h

variable [Transport τ]

/-- Connecting fails with a session open exactly where one can be opened. -/
theorem connect_ends (s : Logged (Client (HttpClient (Metered τ)))) :
    Ends connect s (fun _ t => Moves s t)
      (fun _ t => Moves s t ∧ (t.state.account.sessionOpen = true ↔ s.state.account.CanOpen)) := by
  unfold connect
  rw [ends_bind, ends_look]
  split
  · rw [ends_bind, ends_part]
    refine (HttpClient.defaultDrive_ends _).mono (fun drive t h => ?_) fun _ _ h => h
    rw [ends_bind, ends_change, ends_bind, ends_tell, ends_bind, ends_look, ends_pure]
    exact h
  · rw [ends_bind, ends_look, ends_pure]
    exact .refl

theorem moves_connect : Carries Moves (connect : Act (Client (HttpClient (Metered τ))) Json) :=
  fun s => (connect_ends s).mono (fun _ _ h => h) fun _ _ h => h.1

/-- Only the callback of an upload may do more than an upload does. -/
theorem moves_upload [Reader ρ] (call : UploadCall ρ (HttpClient (Metered τ)))
    (h : ∀ tell ∈ call.progress, ∀ n, Carries HttpClient.Moves (tell n)) :
    Carries Moves (Client.upload call) :=
  onward_moves.bind moves_connect fun _ => onward_moves.bind onward_moves.look fun _ =>
    carries_part (Coordinator.carries_upload _ call (HttpClient.serves_moves h)) fun _ _ h => h

theorem moves_officePreview (fileId : Json) :
    Carries Moves (officePreview fileId : Act (Client (HttpClient (Metered τ))) Json) :=
  onward_moves.bind moves_connect fun _ => moves_account <|
    HttpClient.onward_moves.bind HttpClient.onward_moves.look fun _ => HttpClient.moves_request _ _

theorem moves_videoPreview (fileId : Json) :
    Carries Moves (videoPreview fileId : Act (Client (HttpClient (Metered τ))) Json) :=
  onward_moves.bind moves_connect fun _ => moves_account (HttpClient.moves_request _ _)

/-- Closing leaves nothing open. -/
theorem close_ends (s : Logged (Client (HttpClient (Metered τ)))) :
    Ends close s (fun _ t => Moves s t ∧ t.state.account.sessionOpen = false)
      (fun _ _ => False) := by
  unfold close
  rw [ends_part]
  refine ((HttpClient.moves_close _).and (HttpClient.close_ends _)).mono ?_ fun _ _ h => h.2
  rintro _ t ⟨hmoves, withPool, hshut⟩
  exact ⟨hmoves, congrArg Books.sessionOpen hshut⟩

/-- The connection is made. -/
def Connects (s : Logged (Client (HttpClient τ))) : Prop := ∃ drive t, connect s = .ok drive t

/-- What a block leaves: nothing open where it could connect, and else a session where one can be
opened. -/
structure Leaves (s t : Logged (Client (HttpClient (Metered τ)))) : Prop where
  moves : Moves s t
  isOpen : t.state.account.sessionOpen = true ↔ ¬Connects s ∧ s.state.account.CanOpen

theorem session_ends {body : Act (Client (HttpClient (Metered τ))) β} (hb : Carries Moves body)
    (s : Logged (Client (HttpClient (Metered τ)))) :
    Ends (session body) s (fun _ t => Leaves s t) (fun _ t => Leaves s t) := by
  unfold session
  rw [ends_bind]
  refine ((connect_ends s).and (ends_run connect s)).mono ?_ ?_
  · rintro drive m ⟨hconnect, hrun⟩
    have closed : ∀ {t u}, Moves m t → Moves t u ∧ u.state.account.sessionOpen = false →
        Leaves s u := by
      rintro t u hbody ⟨hclose, hopen⟩
      refine ⟨hconnect.trans (hbody.trans hclose), fun h => ?_,
        fun h => (h.1 ⟨drive, m, hrun⟩).elim⟩
      cases hopen.symm.trans h
    rw [ends_bind, ends_outcome]
    refine (hb m).mono (fun b t ht => ?_) fun e t ht => ?_
    · refine ends_bind.mpr ((close_ends t).mono (fun _ _ h => ?_) fun _ _ h => h.elim)
      exact ends_pure.mpr (closed ht h)
    · refine ends_bind.mpr ((close_ends t).mono (fun _ _ h => ?_) fun _ _ h => h.elim)
      exact ends_fail.mpr (closed ht h)
  · rintro e t ⟨⟨hmoves, hopen⟩, hrun⟩
    have hfails : ¬Connects s := by
      rintro ⟨drive, u, h⟩
      cases hrun.symm.trans h
    exact ⟨hmoves, hopen.trans ⟨fun h => ⟨hfails, h⟩, fun h => h.2⟩⟩

/-- A client as an action leaves it. -/
def left (a : Act (Client τ) β) (s : Logged (Client τ)) : Client τ :=
  match a s with
  | .ok _ t => t.state
  | .error _ t => t.state

/-- **Leaving a block.**  Whatever is done in it, all sessions are closed once it has been left,
exactly where the client can connect, or can open no session. -/
theorem returned_session {body : Act (Client (HttpClient (Metered τ))) β} (hb : Carries Moves body)
    {s : Logged (Client (HttpClient (Metered τ)))} (hs : s.state.account.books.Balanced) :
    (left (session body) s).account.transport.Returned ↔
      Connects s ∨ ¬s.state.account.CanOpen := by
  have leaves : Leaves s ⟨left (session body) s, s.log⟩ := by
    have h := session_ends hb s
    unfold left
    cases hr : session body s with
    | ok b t =>
      have ht := ends_of_ok h hr
      exact ⟨ht.moves, ht.isOpen⟩
    | error e t =>
      have ht := ends_of_error h hr
      exact ⟨ht.moves, ht.isOpen⟩
  have hreturned := (hs.reaches leaves.moves).returned_iff
  refine hreturned.trans ?_
  rw [← Bool.not_eq_true]
  exact (not_congr leaves.isOpen).trans (by
    rw [Classical.not_and_iff_not_or_not, Classical.not_not])

end Client

/-! ### What is done in a block -/

/-- An operation on a client of a drive. -/
inductive DriveOperation (ρ τ : Type) where
  | connect
  | close
  | setToken (token : Option String)
  | upload (call : UploadCall ρ (HttpClient τ))
  | officePreview (fileId : Json)
  | videoPreview (fileId : Json)
  /-- An operation on its account. -/
  | account (op : Operation)

/-- What an operation gives. -/
inductive Given where
  | nothing
  | value (v : Json)
  | report (r : Report)

/-- What is done in a block: one operation after the other, each by what became of those before,
until the block is left, normally or by a fault. -/
inductive Block (ρ τ : Type) where
  | leave (result : Except Fault Unit)
  | step (op : DriveOperation ρ τ) (next : Except Fault Given → Block ρ τ)

namespace DriveOperation

variable [Reader ρ] [Transport τ]

/-- Carries an operation out. -/
def run : DriveOperation ρ τ → Act (Client (HttpClient τ)) Given
  | .connect => .value <$> Client.connect
  | .close => (fun _ => .nothing) <$> Client.close
  | .setToken token => (fun _ => .nothing) <$> Client.setToken token
  | .upload call => .report <$> Client.upload call
  | .officePreview fileId => .value <$> Client.officePreview fileId
  | .videoPreview fileId => .value <$> Client.videoPreview fileId
  | .account op => (fun _ => .nothing) <$> Act.within Client.theAccount op.run

/-- A callback does nothing to the connections but what a client can do. -/
def Fair : DriveOperation ρ (Metered τ) → Prop
  | .upload call => ∀ tell ∈ call.progress, ∀ n, Carries HttpClient.Moves (tell n)
  | _ => True

theorem moves_run {op : DriveOperation ρ (Metered τ)} (h : op.Fair) :
    Carries Client.Moves op.run := by
  cases op with
  | connect => exact Client.moves_connect.map _
  | close => exact Carries.map (fun s => (Client.close_ends s).mono (fun _ _ h => h.1)
      fun _ _ h => h.elim) _
  | setToken token => exact Carries.map (carries_change fun _ => .refl) _
  | upload call => exact (Client.moves_upload call h).map _
  | officePreview fileId => exact (Client.moves_officePreview fileId).map _
  | videoPreview fileId => exact (Client.moves_videoPreview fileId).map _
  | account op => exact (Client.moves_account op.moves_run).map _

end DriveOperation

namespace Block

variable [Reader ρ] [Transport τ]

/-- Carries out what is done in a block. -/
def run : Block ρ τ → Act (Client (HttpClient τ)) Unit
  | .leave result => Act.ofExcept result
  | .step op next => do
    let given ← op.run.outcome
    (next given).run

/-- So do all callbacks in it. -/
def Fair : Block ρ (Metered τ) → Prop
  | .leave _ => True
  | .step op next => op.Fair ∧ ∀ given, (next given).Fair

/-- Whatever is done brings the connections to where a client can bring them. -/
theorem moves_run {block : Block ρ (Metered τ)} (h : block.Fair) :
    Carries Client.Moves block.run := by
  induction block with
  | leave result => exact Client.onward_moves.ofExcept result
  | step op next ih =>
    exact Client.onward_moves.bind (DriveOperation.moves_run h.1).outcome
      fun given => ih given (h.2 given)

end Block

/-! ### Runs of the program -/

namespace Program

/-- The client that a command works with. -/
def client (access : Access) (token : String) (uploads : UploadConfig) (m : Machine τ) :
    Logged (Client (HttpClient τ)) :=
  let account := HttpClient.new (some token)
    (HttpConfig.standard.withOptions access.proxy access.insecure) m.transport
  ⟨⟨{ account with room := account.room - roomTaken }, m.disk,
    (access.driveId.map Json.str).getD .null, uploads⟩, #[]⟩

/-- The client of a command, where it comes to one. -/
def client? (m : Machine τ) : Command → Option (Logged (Client (HttpClient τ)))
  | .upload order access =>
    if m.disk.isFile order.file then
      (tokenOf access).map fun token =>
        client access token { UploadConfig.standard with
          rapid := order.rapid
          tempFolder := order.tempFolder.map Path.normal } m
    else none
  | .preview order access =>
    if order.kind != "doc" && order.kind != "video" then none
    else (tokenOf access).map fun token => client access token .standard m

variable [Transport τ]

theorem transport_withClient (access : Access) (token : String) (uploads : UploadConfig)
    (body : Act (Client (HttpClient τ)) β) (m : Machine τ) :
    (withClient access token uploads body m).2.transport =
      (Client.left (Client.session body) (client access token uploads m)).account.transport := by
  unfold withClient Client.left client
  dsimp only
  cases Client.session body _ <;> rfl

/-- No certificates of a user's are asked for, so a session can be opened. -/
theorem canOpen_client (access : Access) (token : String) (uploads : UploadConfig)
    (m : Machine τ) : (client access token uploads m).state.account.CanOpen := by
  refine .inr ⟨rfl, ?_⟩
  have hv : (HttpConfig.standard.withOptions access.proxy access.insecure).verification = .off ∨
      (HttpConfig.standard.withOptions access.proxy access.insecure).verification =
        .certificates none := by
    cases access.insecure with
    | true => exact .inl rfl
    | false => exact .inr rfl
  unfold HttpClient.checkCertificates
  dsimp only [client, HttpClient.new]
  rcases hv with hv | hv <;> rw [hv]

/-- The bar does nothing to the connections but what a client can do. -/
structure Fair (bar : ProgressBar (HttpClient (Metered τ))) : Prop where
  start : ∀ description, Carries HttpClient.Moves (bar.start description)
  advance : ∀ n, Carries HttpClient.Moves (bar.advance n)

theorem moves_upload {bar : ProgressBar (HttpClient (Metered τ))} (h : Fair bar)
    (o : UploadOrder) : Carries Client.Moves (upload bar o) := by
  refine Client.onward_moves.bind (Client.moves_account (h.start _)) fun _ =>
    Client.onward_moves.bind (Client.moves_upload _ ?_) fun report =>
    Client.onward_moves.bind (Client.moves_account (h.advance 100)) fun _ =>
      Client.onward_moves.pure report
  rintro _ ⟨⟩ n
  exact h.advance n

theorem moves_preview (o : PreviewOrder) :
    Carries Client.Moves (preview o : Act (Client (HttpClient (Metered τ))) Json) := by
  unfold preview
  split
  · exact Client.moves_officePreview _
  · exact Client.moves_videoPreview _

/-- **Leaving a command.**  A run closes all its sessions exactly where the client that it works
with can connect, if it comes to one. -/
theorem returned_carryOut {bar : ProgressBar (HttpClient (Metered τ))} (h : Fair bar)
    (command : Command) {m : Machine (Metered τ)} (hm : m.transport.traffic = []) :
    (carryOut bar command m).2.transport.Returned ↔
      ∀ s, client? m command = some s → Client.Connects s := by
  have idle : ∀ {ending : Ending}, ((ending, m) : Ending × Machine _).2.transport.Returned ↔
      ∀ s, (none : Option (Logged (Client (HttpClient (Metered τ))))) = some s →
        Client.Connects s := by
    refine fun {_} => ⟨fun _ _ h => (nomatch h), fun _ => ?_⟩
    rw [Metered.Returned, hm]
    exact fun _ h => nomatch h
  have block : ∀ {β : Type} {body : Act (Client (HttpClient (Metered τ))) β} (access token uploads),
      Carries Client.Moves body →
      ((withClient access token uploads body m).2.transport.Returned ↔
        ∀ s, some (client access token uploads m) = some s → Client.Connects s) := by
    intro β body access token uploads hb
    have hbalanced : (client access token uploads m).state.account.books.Balanced := by
      have hbooks : (client access token uploads m).state.account.books =
          ⟨false, false, false, m.transport.traffic⟩ := rfl
      rw [hbooks, hm]
      exact Books.balanced_nil
    rw [transport_withClient, Client.returned_session hb hbalanced]
    constructor
    · rintro (hc | hno) _ ⟨⟩
      · exact hc
      · exact absurd (canOpen_client access token uploads m) hno
    · exact fun h => .inl (h _ rfl)
  cases command with
  | upload order access =>
    unfold carryOut client?
    dsimp only
    cases m.disk.isFile order.file with
    | false => exact idle
    | true =>
      cases tokenOf access with
      | none => exact idle
      | some token =>
        refine Iff.trans ?_ (block access token _ (moves_upload h order))
        rw [if_neg (by decide)]
        dsimp only
        split <;> rename_i hw <;> rw [hw]
  | preview order access =>
    unfold carryOut client?
    dsimp only
    split
    · exact idle
    · cases tokenOf access with
      | none => exact idle
      | some token =>
        refine Iff.trans ?_ (block access token .standard (moves_preview order))
        dsimp only
        split <;> rename_i hw <;> rw [hw]

/-- **No session is left open**, with exceptions.  A block closes all sessions of its client,
however it is left, exactly where the client can connect or can open no session; and a run of the
program does exactly where the client that it works with can connect. -/
theorem blocks_return [Reader ρ] :
    (∀ (block : Block ρ (Metered τ)) (s : Logged (Client (HttpClient (Metered τ)))), block.Fair →
      s.state.account.books.Balanced →
        ((Client.left (Client.session block.run) s).account.transport.Returned ↔
          Client.Connects s ∨ ¬s.state.account.CanOpen)) ∧
      ∀ (bar : ProgressBar (HttpClient (Metered τ))) (args : List String)
        (m : Machine (Metered τ)), Fair bar → m.transport.traffic = [] →
          ((run bar args m).2.transport.Returned ↔
            ∀ command s, Command.read m.token args = .ok command → client? m command = some s →
              Client.Connects s) := by
  refine ⟨fun block s hb hs => Client.returned_session (Block.moves_run hb) hs, ?_⟩
  intro bar args m hbar hm
  unfold run
  cases hr : Command.read m.token args with
  | error status =>
    refine ⟨fun _ _ _ h => (nomatch h), fun _ => ?_⟩
    dsimp only
    rw [Metered.Returned, hm]
    exact fun _ h => nomatch h
  | ok command =>
    dsimp only
    rw [returned_carryOut hbar command hm]
    exact ⟨fun h _ s hc hs => by cases hc; exact h s hs, fun h s hs => h command s rfl hs⟩

end Program

namespace Rehearsal

/-- A bar that shows nothing. -/
def blank : ProgressBar (HttpClient (Metered Wire)) := ⟨fun _ => pure (), fun _ => pure ()⟩

theorem fair_blank : Program.Fair blank :=
  ⟨fun _ => HttpClient.onward_moves.pure _, fun _ => HttpClient.onward_moves.pure _⟩

/-- A client of a drive over some answers. -/
def visitor (driveId : Json) (replies : List Reply) : Logged (Client (HttpClient (Metered Wire))) :=
  ⟨⟨.new (some "token") .standard (.new { pooled with replies := replies }), pooled.disk, driveId,
    .standard⟩, #[]⟩

/-- A machine with some answers. -/
def desk (replies : List Reply) : Machine (Metered Wire) :=
  ⟨.new { pooled with replies := replies }, pooled.disk, Console.standard.encoded, some "token"⟩

/-- A preview, whatever it comes to. -/
def glance : Block Stream (Metered Wire) :=
  .step (.officePreview "file") fun _ => .leave (.ok ())

end Rehearsal

namespace Program

open Rehearsal

theorem blocks_return_glance :
    let s := visitor "drive" [.ok ⟨200, .ok ""⟩]
    let args := ["preview", "doc", "file"]
    let m := desk [.ok ⟨200, .ok "\x7b\"default_drive_id\": \"drive\"\x7d"⟩, .ok ⟨200, .ok ""⟩]
    let left := (Client.left (Client.session glance.run) s).account.transport
    left.Returned ∧ (Traffic.leases left.traffic).length = 1 ∧
      (Traffic.leases (run blank args m).2.transport.traffic).length = 1 ∧
      ∀ command s, Command.read m.token args = .ok command → client? m command = some s →
        Client.Connects s := by
  have h := blocks_return (ρ := Stream) (τ := Wire)
  refine ⟨?_, by decide +kernel, by decide +kernel, ?_⟩
  · exact (h.1 glance (visitor "drive" [.ok ⟨200, .ok ""⟩]) ⟨trivial, fun _ => trivial⟩
      Books.balanced_nil).mpr (.inl ⟨_, _, rfl⟩)
  · refine (h.2 blank _ _ fair_blank rfl).mp ?_
    unfold Metered.Returned
    decide +kernel

/-- A lookup that fails leaves its session open, in a block and in a run of the program. -/
theorem blocks_leak :
    let failing : List Reply := [.error "connection lost"]
    Traffic.leases (Client.left (Client.session glance.run)
        (visitor .null failing)).account.transport.traffic = [.fresh] ∧
      Traffic.leases (run blank ["preview", "doc", "file"] (desk failing)).2.transport.traffic =
        [.fresh] := by
  decide +kernel

end Program

end RapidUpload
