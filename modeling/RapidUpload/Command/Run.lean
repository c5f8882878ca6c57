import RapidUpload.Command.Read
import RapidUpload.Console.Basic
import RapidUpload.Http.Client
import RapidUpload.Client

/-!
# Runs of the program

A run carries out one command over a transport, a disk and a console.  It ends with what it prints
and a status, or with a fault that is none of the library's own.

* `Program.run`: a run on arguments.
-/

namespace RapidUpload

/-- What shows the progress of a task. -/
structure ProgressBar (α : Type) where
  start : String → Act α Unit
  advance : Progress α

/-- What a run works with. -/
structure Machine (τ : Type) where
  transport : τ
  disk : Disk
  console : Console
  /-- The token the environment holds. -/
  token : Option String

/-- How a run ends: what it has printed, and its status or the fault that ended it. -/
structure Ending where
  output : String
  result : Except Fault Status

namespace Ending

variable (console : Console)

/-- Ends with what is shown, unless it cannot be. -/
def shown (status : Status) : Except Fault String → Ending
  | .ok text => ⟨text, .ok status⟩
  | .error e => ⟨"", .error e⟩

/-- Ends with a line that may hold markup. -/
def line (status : Status) (markup : String) : Ending := shown status (console.print markup)

/-- Ends with a fault: one of the library's own is told, with its text as it is. -/
def fault (lead : String) (e : Fault) : Ending :=
  if e.isOwn then
    line console .failed ("[red]" ++ lead ++ ": " ++ console.escape e.message ++ "[/red]")
  else ⟨"", .error e⟩

/-- Ends for want of a token. -/
def noToken : Ending :=
  line console .failed "[red]No access token. Pass --token or set ALIDRIVE_ACCESS_TOKEN.[/red]"

/-- Ends with the news of an upload. -/
def uploaded (r : Report) : Ending :=
  let file := r.name ++ " -> " ++ r.fileId.shown
  if r.rapid then line console .done ("[green]Rapid upload:[/green] " ++ file)
  else
    let parts := " (" ++ toString r.partsUploaded ++ " parts)"
    line console .done ("[green]Uploaded:[/green] " ++ file ++ parts)

/-- Ends with a value. -/
def value (v : Json) : Ending := shown .done (console.printValue v)

end Ending

namespace Program

variable {τ : Type} [Transport τ]

/-- What a program takes of the room for answers. -/
def roomTaken : Nat := 14

/-- Runs an action between connecting and closing a client of its own. -/
def withClient {β : Type} (access : Access) (token : String) (uploads : UploadConfig)
    (body : Act (Client (HttpClient τ)) β) (m : Machine τ) : Except Fault β × Machine τ :=
  let config := HttpConfig.standard.withOptions access.proxy access.insecure
  let drive := (access.driveId.map Json.str).getD .null
  let account := HttpClient.new (some token) config m.transport
  let account := { account with room := account.room - roomTaken }
  let left (c : Client (HttpClient τ)) : Machine τ :=
    { m with transport := c.account.transport, disk := c.disk }
  match Client.session body ⟨⟨account, m.disk, drive, uploads⟩, #[]⟩ with
  | .ok b s => (.ok b, left s.state)
  | .error e s => (.error e, left s.state)

/-- Uploads a file while its progress is shown. -/
def upload (bar : ProgressBar (HttpClient τ)) (o : UploadOrder) :
    Act (Client (HttpClient τ)) Report := do
  let name := Source.given o.name (Path.lastName o.file)
  Act.within Client.theAccount (bar.start ("Uploading " ++ name))
  let call : UploadCall Cursor (HttpClient τ) :=
    { origin := .path o.file
      parentId := o.parent
      name := o.name
      size := none
      progress := some bar.advance
      rapid := none }
  let report ← Client.upload call
  Act.within Client.theAccount (bar.advance 100)
  return report

/-- Asks for what shows a document or plays a video. -/
def preview (o : PreviewOrder) : Act (Client (HttpClient τ)) Json :=
  if o.kind = "doc" then Client.officePreview (.str o.fileId)
  else Client.videoPreview (.str o.fileId)

/-- The token of a command, unless it is empty. -/
def tokenOf (access : Access) : Option String := access.token.filter (· != "")

/-- Carries out a command. -/
def carryOut (bar : ProgressBar (HttpClient τ)) (command : Command) (m : Machine τ) :
    Ending × Machine τ :=
  match command with
  | .upload order access =>
    if !m.disk.isFile order.file then (⟨"", .ok .misused⟩, m)
    else
      match tokenOf access with
      | none => (.noToken m.console, m)
      | some token =>
        let uploads :=
          { UploadConfig.standard with
            rapid := order.rapid
            tempFolder := order.tempFolder.map Path.normal }
        match withClient access token uploads (upload bar order) m with
        | (.ok report, m) => (.uploaded m.console report, m)
        | (.error e, m) => (.fault m.console "Upload failed" e, m)
  | .preview order access =>
    if order.kind != "doc" && order.kind != "video" then
      (.line m.console .misused ("[red]Unknown preview kind: " ++ order.kind ++ "[/red]"), m)
    else
      match tokenOf access with
      | none => (.noToken m.console, m)
      | some token =>
        match withClient access token .standard (preview order) m with
        | (.ok v, m) => (.value m.console v, m)
        | (.error e, m) => (.fault m.console "Preview failed" e, m)

/-- A run on arguments. -/
def run (bar : ProgressBar (HttpClient τ)) (args : List String) (m : Machine τ) :
    Ending × Machine τ :=
  match Command.read m.token args with
  | .error status => (⟨"", .ok status⟩, m)
  | .ok command => carryOut bar command m

end Program

end RapidUpload
