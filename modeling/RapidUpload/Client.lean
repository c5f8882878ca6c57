import RapidUpload.Upload

/-!
# The drive client

A client of one drive.  The drive is looked up once, when it is first needed and was not given,
and then used everywhere.
-/

namespace RapidUpload

/-- A client: its account, its disk, its drive once known, and the settings of its uploads. -/
structure Client (α : Type) where
  account : α
  disk : Disk
  driveId : Json
  uploads : UploadConfig

namespace Client

variable {α : Type}

/-- The account. -/
def theAccount : Focus (Client α) α := ⟨account, fun a c => { c with account := a }⟩

/-- What uploads work on. -/
def site : Focus (Client α) (Site α) :=
  ⟨fun c => ⟨c.account, c.disk⟩, fun s c => { c with account := s.service, disk := s.disk }⟩

variable [DriveAccount α]

/-- Looks the drive up unless it is known, and gives it. -/
def connect : Act (Client α) Json := do
  if !(← Act.look).driveId.truthy then
    let drive ← Act.within theAccount DriveAccount.defaultDrive
    Act.change fun c => { c with driveId := drive }
    Act.tell .info .client ["Using drive ", drive.shown]
  return (← Act.look).driveId

/-- Ends all connections. -/
def close : Act (Client α) Unit := Act.within theAccount DriveAccount.close

/-- Holds another token from now on. -/
def setToken (token : Option String) : Act (Client α) Unit :=
  Act.change fun c => { c with account := DriveAccount.setToken token c.account }

/-- Uploads what the caller hands in. -/
def upload {ρ : Type} [Reader ρ] (call : UploadCall ρ α) : Act (Client α) Report := do
  let drive ← connect
  let config := (← Act.look).uploads
  Act.within site (Coordinator.upload ⟨drive, config, config.partSize⟩ call)

/-- What shows a document. -/
def officePreview (fileId : Json) : Act (Client α) Json := do
  let drive ← connect
  Act.within theAccount (DriveAccount.officePreview drive fileId)

/-- What plays a video. -/
def videoPreview (fileId : Json) : Act (Client α) Json := do
  let drive ← connect
  Act.within theAccount (DriveAccount.videoPreview drive fileId)

/-- Runs an action between connecting and closing. A client that cannot connect is not closed; one
that can is closed whichever way the action ends. -/
def session {β : Type} (body : Act (Client α) β) : Act (Client α) β := do
  let _ ← connect
  match ← body.outcome with
  | .ok b => do
    close
    return b
  | .error e => do
    close
    Act.fail e

end Client

end RapidUpload
