import RapidUpload.Source
import RapidUpload.Negotiation
import RapidUpload.Transfer
import RapidUpload.Completion

/-!
# Uploads

An upload opens its source, negotiates, transfers the parts if the server wants them, and
completes the session.  The spill file lives only while it runs.

* `UploadConfig`: the settings of uploads.
* `Coordinator.upload`: one upload; its `Report` says what became of the file.
-/

namespace RapidUpload

/-- The settings of uploads. -/
structure UploadConfig where
  /-- Try a sample before the full hash. -/
  rapid : Bool
  /-- The folder for the spill file. -/
  tempFolder : Option String
  partSize : PartSize
  sampler : Sampler
  /-- What the server does when the name is taken. -/
  checkNameMode : String

namespace UploadConfig

/-- The settings when none are given. -/
def standard : UploadConfig := ⟨true, none, .standard, .standard, "overwrite"⟩

/-- Settings from their numbers: a part holds at least a byte and a sample is not negative. -/
def make (rapid : Bool) (tempFolder : Option String) (partSize prehashSize : Int)
    (checkNameMode : String) : Except Fault UploadConfig := do
  let partSize ← PartSize.ofInt partSize
  if prehashSize < 0 then .error (.refused .prehashSize)
  else .ok ⟨rapid, tempFolder.map Path.normal, partSize, ⟨prehashSize.toNat⟩, checkNameMode⟩

end UploadConfig

/-- What a caller asks for. -/
structure UploadCall (ρ α : Type) where
  origin : Origin ρ
  parentId : String
  name : Option String
  size : Option Int
  progress : Option (Progress α)
  /-- Overrides the setting. -/
  rapid : Option Bool

/-- What became of a file. -/
structure Report where
  fileId : Json
  name : String
  size : Nat
  /-- Nothing had to be sent. -/
  rapid : Bool
  partsUploaded : Nat
  /-- The last answer. -/
  response : Json

/-- What uploads work on from one to the next. -/
structure Site (α : Type) where
  service : α
  disk : Disk

namespace Site

variable {ρ α : Type}

/-- The service. -/
def theService : Focus (Site α) α := ⟨service, fun a s => { s with service := a }⟩

/-- Runs an action on a scene with a spill of its own, which is cleaned up whichever way the
action ends. -/
def withScene {β : Type} (folder : Option String) (stream : ρ) (body : Act (Scene ρ α) β) :
    Act (Site α) β := fun s =>
  let close (t : Logged (Scene ρ α)) : Logged (Site α) :=
    let spill := Spill.cleanup ⟨t.state.spill, t.log⟩
    ⟨⟨t.state.service, spill.state.disk⟩, spill.log⟩
  let scene : Scene ρ α :=
    ⟨.bare stream, s.state.service, .new s.state.disk folder, .prehashPending⟩
  match body ⟨scene, s.log⟩ with
  | .ok b t => .ok b (close t)
  | .error e t => .error e (close t)

end Site

/-- How uploads to a drive are done. -/
structure Coordinator where
  driveId : Json
  config : UploadConfig
  /-- The size of the parts asked for. -/
  plan : PartSize

namespace Coordinator

variable {ρ α : Type} [Reader ρ] [DriveService α]

/-- The request for a source. -/
def request (c : Coordinator) (parentId : String) (source : Source ρ) : Request :=
  { driveId := c.driveId
    name := source.name
    parentId := parentId
    size := source.size
    parts := c.plan.plan source.size
    checkNameMode := c.config.checkNameMode }

/-- Transfers the parts of an outcome from where its bytes are. -/
def transfer (c : Coordinator) (outcome : Outcome) (count : Nat)
    (progress : Option (Progress α)) : Act (Scene ρ α) Nat :=
  match outcome.supply with
  | some .spill =>
    Act.within (Scene.theSpill.both Scene.theService)
      (Transfer.run c.config.partSize outcome.parts count progress)
  | _ =>
    Act.within (Scene.theStream.both Scene.theService)
      (Transfer.run c.config.partSize outcome.parts count progress)

/-- Negotiates, and transfers where the server wants the bytes: the outcome and the number of
parts sent. -/
def deliver (c : Coordinator) (rapid : Bool) (request : Request) (stream : ρ)
    (progress : Option (Progress α)) : Act (Scene ρ α) (Outcome × Nat) := do
  let outcome ← Negotiator.negotiate ⟨rapid, c.config.sampler⟩ request stream
  if outcome.stage.isRapid then
    Act.tell .info .coordinator ["Rapid upload finished in ", .elapsed, "s: ", request.name]
    return (outcome, 0)
  else
    let sent ← c.transfer outcome request.parts.length progress
    return (outcome, sent)

/-- Uploads what the caller hands in. -/
def upload (c : Coordinator) (call : UploadCall ρ α) : Act (Site α) Report := do
  let rapid := call.rapid.getD c.config.rapid
  let source ← Source.enter (← Act.look).disk call.name call.size call.origin
  let size ← Act.ofExcept (Size.megabytes 2 source.size)
  Act.tell .info .coordinator ["Starting upload: ", source.name, " (", size, " MB, rapid=",
    (Json.bool rapid).shown, ")"]
  let request := c.request call.parentId source
  let (outcome, sent) ← Site.withScene c.config.tempFolder source.stream
    (c.deliver rapid request source.stream call.progress)
  match outcome.stage.isRapid, outcome.session with
  | false, some session =>
    let response ← Act.within Site.theService (Completion.complete c.driveId session)
    Act.tell .info .coordinator ["Upload finished in ", .elapsed, "s: ", source.name, " (",
      toString sent, " parts)"]
    return ⟨session.fileId, source.name, source.size, false, sent, response⟩
  | _, _ => return ⟨outcome.answer.fileId, source.name, source.size, true, 0, outcome.answer.raw⟩

end Coordinator

end RapidUpload
