import RapidUpload.Upload
import RapidUpload.Proofs.Action

/-!
# Watched uploads

What an upload does shows in its calls: those to the service and those of the caller's progress
callback, in their order, each with how it ended.  A watched service keeps them beside any other
service, and an upload over it is the same upload.

* `Event`: a call with what was sent and how it ended.
* `Watched`: a service and the calls made to it so far.
* `Coordinator.watch`: what an upload ends in, and its calls.
-/

namespace RapidUpload

open Step

variable {ρ α β : Type}

/-- A call with what was sent and how it ended. -/
inductive Event where
  | create (body : Json) (result : Except Fault Json)
  | put (url : Json) (bytes : ByteArray) (result : Except Fault Unit)
  | told (percent : Int) (result : Except Fault Unit)
  | complete (driveId fileId uploadId : Json) (result : Except Fault Json)

/-- A service and the calls made to it so far. -/
structure Watched (α : Type) where
  service : α
  events : List Event

namespace Watched

/-- The service itself. -/
def theService : Focus (Watched α) α := ⟨service, fun a w => { w with service := a }⟩

/-- Makes a call and keeps it, however it ends. -/
def note (event : Except Fault β → Event) (call : Act α β) : Act (Watched α) β := do
  let result ← (Act.within theService call).outcome
  Act.change fun w => { w with events := w.events ++ [event result] }
  Act.ofExcept result

instance [DriveService α] : DriveService (Watched α) where
  accessToken w := DriveService.accessToken w.service
  createUpload body := note (.create body) (DriveService.createUpload body)
  uploadPart url bytes := note (.put url bytes) (DriveService.uploadPart url bytes)
  completeUpload driveId fileId uploadId :=
    note (.complete driveId fileId uploadId)
      (DriveService.completeUpload driveId fileId uploadId)

/-- A callback whose calls are kept. -/
def progress (tell : Progress α) : Progress (Watched α) := fun n => note (.told n) (tell n)

/-- Whatever a call does, it is one more at the end of those kept. -/
theorem ends_note {event : Except Fault β → Event} {call : Act α β} {w : Logged (Watched α)}
    {Q : β → Logged (Watched α) → Prop} {E : Fault → Logged (Watched α) → Prop}
    (hQ : ∀ b service log, Q b ⟨⟨service, w.state.events ++ [event (.ok b)]⟩, log⟩)
    (hE : ∀ e service log, E e ⟨⟨service, w.state.events ++ [event (.error e)]⟩, log⟩) :
    Ends (note event call) w Q E := by
  unfold note
  rw [ends_bind, ends_outcome, ends_part]
  cases hc : call ⟨theService.get w.state, w.log⟩ with
  | ok b t =>
    refine ends_ok hc ?_
    rw [ends_bind, ends_change, ends_ofExcept]
    exact ⟨fun b' h => Except.ok.inj h ▸ hQ b _ _, fun e h => by cases h⟩
  | error e t =>
    refine ends_error hc ?_
    rw [ends_bind, ends_change, ends_ofExcept]
    exact ⟨fun b h => (by cases h), fun e' h => Except.error.inj h ▸ hE e _ _⟩

end Watched

/-- The same call on a watched service. -/
def UploadCall.watched (call : UploadCall ρ α) : UploadCall ρ (Watched α) :=
  { call with progress := call.progress.map Watched.progress }

/-- What an upload ends in, and the calls it made. -/
def Coordinator.watch [Reader ρ] [DriveService α] (c : Coordinator) (call : UploadCall ρ α)
    (s : Logged (Site α)) : Except Fault Report × List Event :=
  match c.upload call.watched ⟨⟨⟨s.state.service, []⟩, s.state.disk⟩, s.log⟩ with
  | .ok report t => (.ok report, t.state.service.events)
  | .error e t => (.error e, t.state.service.events)

end RapidUpload
