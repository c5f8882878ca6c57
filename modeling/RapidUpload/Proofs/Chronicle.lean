import RapidUpload.Proofs.Exchange
import RapidUpload.Proofs.Independence

/-!
# Chronicles

A chronicle keeps the calls to a service as a watched one does, and with each of them the service
and the lines told so far, as they stood before and after it.

* `Visit`: a call with what stood around it.
* `Chronicled`: a service and the visits to it so far.
* `Negotiator.chronicle`: what a negotiation ends in, and its visits.
* `UploadCall.chronicled`, `Site.chronicled`: the same upload, with its visits kept.
* `Negotiator.chronicle_negotiate`, `Coordinator.upload_chronicled`: a chronicle changes nothing.
* `Negotiator.chronicle_ending`: a negotiation's visits are its exchanges, and it ends by them.
-/

namespace RapidUpload

open Step

variable {ρ α β : Type}

/-- A call, and the service and the lines told before and after it. -/
structure Visit (α : Type) where
  before : Logged α
  event : Event
  after : Logged α

/-- The service as some visits left it. -/
def Visit.reached (a : α) (visits : List (Visit α)) : α :=
  (visits.getLast?.map (·.after.state)).getD a

theorem Visit.reached_cons (a : α) (v : Visit α) (visits : List (Visit α)) :
    reached a (v :: visits) = reached v.after.state visits := by
  cases visits with
  | nil => rfl
  | cons w visits => rw [reached, reached, List.getLast?_cons_cons, List.getLast?_cons]; rfl

/-- A service and the visits to it so far. -/
structure Chronicled (α : Type) where
  service : α
  visits : List (Visit α)

namespace Chronicled

/-- The service as it stood before or after a call. -/
def plain (s : Logged (Chronicled α)) : Logged α := ⟨s.state.service, s.log⟩

/-- The chronicle with one more visit at its end. -/
def visited (s : Logged (Chronicled α)) (event : Event) (after : Logged α) :
    Logged (Chronicled α) :=
  ⟨⟨after.state, s.state.visits ++ [⟨plain s, event, after⟩]⟩, after.log⟩

/-- Makes a call and keeps it, however it ends. -/
def note (event : Except Fault β → Event) (call : Act α β) : Act (Chronicled α) β := fun s =>
  match call (plain s) with
  | .ok b t => .ok b (visited s (event (.ok b)) t)
  | .error e t => .error e (visited s (event (.error e)) t)

instance [DriveService α] : DriveService (Chronicled α) where
  accessToken c := DriveService.accessToken c.service
  createUpload body := note (.create body) (DriveService.createUpload body)
  uploadPart url bytes := note (.put url bytes) (DriveService.uploadPart url bytes)
  completeUpload driveId fileId uploadId :=
    note (.complete driveId fileId uploadId)
      (DriveService.completeUpload driveId fileId uploadId)

/-- A callback whose calls are kept. -/
def progress (tell : Progress α) : Progress (Chronicled α) := fun n => note (.told n) (tell n)

/-- A call is what it is without the chronicle, and one more visit. -/
theorem ends_note {event : Except Fault β → Event} {call : Act α β} {s : Logged (Chronicled α)}
    {Q : β → Logged (Chronicled α) → Prop} {E : Fault → Logged (Chronicled α) → Prop} :
    Ends (note event call) s Q E ↔
      Ends call (plain s) (fun b t => Q b (visited s (event (.ok b)) t))
        (fun e t => E e (visited s (event (.error e)) t)) := by
  simp only [Ends, note]
  cases call (plain s) <;> rfl

end Chronicled

/-- What an action on a state with a chronicle ends in, and the visits it made. -/
def chronicle {σ : Type} (visits : σ → List (Visit α)) (a : Act σ β) (s : Logged σ) :
    Except Fault β × List (Visit α) :=
  match a s with
  | .ok b t => (.ok b, visits t.state)
  | .error e t => (.error e, visits t.state)

/-- What a negotiation ends in, and the visits it made. -/
def Negotiator.chronicle [Reader ρ] [DriveService α] (n : Negotiator) (request : Request) (r : ρ)
    (s : Logged (Scene ρ α)) : Except Fault Outcome × List (Visit α) :=
  RapidUpload.chronicle (fun t : Scene ρ (Chronicled α) => t.service.visits)
    (n.negotiate request r)
    ⟨⟨s.state.stream, ⟨s.state.service, []⟩, s.state.spill, s.state.stage⟩, s.log⟩

/-- The same call on a service with a chronicle. -/
def UploadCall.chronicled (call : UploadCall ρ α) : UploadCall ρ (Chronicled α) :=
  { call with progress := call.progress.map Chronicled.progress }

/-- The same site, with no visits to its service yet. -/
def Site.chronicled (s : Logged (Site α)) : Logged (Site (Chronicled α)) :=
  ⟨⟨⟨s.state.service, []⟩, s.state.disk⟩, s.log⟩

/-! ### With a chronicle and without -/

namespace Chronicled

/-- A service does what it does with a chronicle. -/
def Keeps (c : Chronicled α) (a : α) : Prop := c.service = a

/-- A call that is kept goes in step with the call. -/
theorem inStep_note (event : Except Fault β → Event) (call : Act α β) :
    InStep Eq (Told Keeps) (note event call) call := by
  rintro ⟨⟨service, visits⟩, log⟩ ⟨_, _⟩ ⟨rfl, hlog⟩
  cases hlog trivial
  have kept : ∀ event (t : Logged α),
      Told Keeps (visited ⟨⟨service, visits⟩, log⟩ event t) t := fun event t =>
    have hk : Keeps ⟨t.state, visits ++ [⟨⟨service, log⟩, event, t⟩]⟩ t.state := rfl
    .mk hk t.log
  unfold note plain
  dsimp only
  cases call ⟨service, log⟩ with
  | ok b t => exact .ok rfl (kept _ t)
  | error e t => exact .error e (kept _ t)

theorem services_keeps [DriveService α] : Services (Keeps : Chronicled α → α → Prop) where
  accessToken h := congrArg DriveService.accessToken h
  createUpload _ := inStep_note _ _
  uploadPart _ _ := inStep_note _ _
  completeUpload _ _ _ := inStep_note _ _

theorem tellers_keeps : ∀ callback : Option (Progress α),
    Tellers True Keeps (callback.map progress) callback
  | none => .none
  | some _ => .some fun _ => inStep_note _ _

end Chronicled

/-- **A chronicle changes nothing.**  A negotiation ends as it does without one. -/
theorem Negotiator.chronicle_negotiate [Reader ρ] [DriveService α] (n : Negotiator)
    (request : Request) (r : ρ) (s : Logged (Scene ρ α)) (hs : s.state.spill.handle = none) :
    (∀ {out t}, n.negotiate request r s = .ok out t → (n.chronicle request r s).1 = .ok out) ∧
      ∀ {e t}, n.negotiate request r s = .error e t → (n.chronicle request r s).1 = .error e := by
  have hagree := agree_negotiate (streams_eq { UploadConfig.standard with sampler := n.sampler })
    (Chronicled.services_keeps.peers s.state.spill.disk.limits) n.rapid request trivial
    (rfl : r = r) (s := ⟨s.state.stream, ⟨s.state.service, []⟩, s.state.spill, s.state.stage⟩)
    (t := s.state) rfl ⟨rfl, hs, rfl⟩ (fun _ => (rfl : s.log = s.log))
  unfold chronicle RapidUpload.chronicle
  generalize n.negotiate request r ⟨⟨s.state.stream, (⟨s.state.service, []⟩ : Chronicled α),
    s.state.spill, s.state.stage⟩, s.log⟩ = x at hagree ⊢
  generalize n.negotiate request r s = y at hagree
  cases hagree with
  | ok h =>
    cases h.outcome
    exact ⟨fun h => by cases h; rfl, fun h => nomatch h⟩
  | error e h => exact ⟨fun h => (nomatch h), fun h => by cases h; rfl⟩

/-- An upload ends as it does without a chronicle, and leaves the same disk and the same lines. -/
theorem Coordinator.upload_chronicled [Reader ρ] [DriveService α] (c : Coordinator)
    (call : UploadCall ρ α) (s : Logged (Site α)) :
    Alike Eq (Told (Site.Match Chronicled.Keeps)) (c.upload call.chronicled (Site.chronicled s))
      (c.upload call s) :=
  upload_inStep (streams_eq _) Chronicled.services_keeps
    ⟨rfl, rfl, Chronicled.tellers_keeps _, fun disk => Source.inStep_resolve disk _ _ _⟩
    _ _ (.mk ⟨rfl, rfl⟩ s.log)

/-! ### Visits of exchanges -/

namespace Exchange

variable {request : Request}

/-- The visit of an exchange. -/
def visit (request : Request) (x : Exchange (Chronicled α)) : Visit α :=
  ⟨Chronicled.plain x.before, x.event request, Chronicled.plain x.after⟩

variable [DriveService α]

/-- An exchange leaves the chronicle with its visit as the last one. -/
theorem Made.visited {x : Exchange (Chronicled α)} (h : x.Made request) :
    x.after = Chronicled.visited x.before (x.event request) (Chronicled.plain x.after) := by
  have hnote : Ends (DriveService.createUpload (request.body (some x.evidence))).outcome x.before
      (fun result t => t = Chronicled.visited x.before
        (.create (request.body (some x.evidence)) result) (Chronicled.plain t))
      fun _ _ => True := by
    refine ends_outcome.mpr (Chronicled.ends_note.mpr ?_)
    exact (ends_run _ _).mono (fun _ _ _ => rfl) fun _ _ _ => rfl
  have hafter := ends_of_ok hnote h
  exact hafter

theorem Made.visits {x : Exchange (Chronicled α)} (h : x.Made request) :
    x.after.state.visits = x.before.state.visits ++ [x.visit request] :=
  congrArg (fun t => t.state.visits) h.visited

/-- A chain of requests adds their visits. -/
theorem Chain.visits {a b : Chronicled α} {xs : List (Exchange (Chronicled α))}
    (h : Chain request a xs b) : b.visits = a.visits ++ xs.map (visit request) := by
  induction xs generalizing a with
  | nil =>
    obtain rfl : b = a := h
    exact (List.append_nil _).symm
  | cons x xs ih =>
    obtain ⟨rfl, hx, h⟩ := h
    rw [ih h, hx.visits, List.append_assoc]
    rfl

/-- The visits of a chain leave the service as the chain does. -/
theorem Chain.reached {a b : Chronicled α} {xs : List (Exchange (Chronicled α))}
    (h : Chain request a xs b) : Visit.reached a.service (xs.map (visit request)) = b.service := by
  induction xs generalizing a with
  | nil =>
    obtain rfl : b = a := h
    rfl
  | cons x xs ih =>
    obtain ⟨rfl, -, h⟩ := h
    rw [List.map_cons, Visit.reached_cons]
    exact ih h

/-- The second request finds the service as the first one left it. -/
theorem Chain.second {a b : Chronicled α} {xs : List (Exchange (Chronicled α))} {first v : Visit α}
    (h : Chain request a xs b) (hv : xs.map (visit request) = [first, v]) :
    v.before.state = first.after.state := by
  obtain ⟨x, ys, rfl, rfl, hys⟩ := List.map_eq_cons_iff.mp hv
  obtain ⟨y, zs, rfl, rfl, -⟩ := List.map_eq_cons_iff.mp hys
  exact congrArg Chronicled.service h.2.2.1

end Exchange

/-- **A negotiation's visits** are its exchanges, and it ends by them. -/
theorem Negotiator.chronicle_ending [Reader ρ] [DriveService α] (n : Negotiator) (request : Request)
    (r : ρ) (s : Logged (Scene ρ α)) (hs : s.state.spill.handle = none) :
    ∃ xs b, n.Ending request r s.state.spill ⟨s.state.service, []⟩ xs b
        (n.chronicle request r s).1 ∧
      (n.chronicle request r s).2 = xs.map (Exchange.visit request) := by
  have h := n.negotiate_ends request
    ⟨⟨s.state.stream, (⟨s.state.service, []⟩ : Chronicled α), s.state.spill, s.state.stage⟩, s.log⟩
    r hs
  unfold chronicle RapidUpload.chronicle
  cases hr : n.negotiate request r
      ⟨⟨s.state.stream, (⟨s.state.service, []⟩ : Chronicled α), s.state.spill, s.state.stage⟩,
        s.log⟩ with
  | ok out t =>
    obtain ⟨⟨xs, hend⟩, -⟩ := ends_of_ok h hr
    exact ⟨xs, _, hend, hend.negotiation.chain.visits⟩
  | error e t =>
    obtain ⟨xs, hend⟩ := ends_of_error h hr
    exact ⟨xs, _, hend, hend.negotiation.chain.visits⟩

end RapidUpload
