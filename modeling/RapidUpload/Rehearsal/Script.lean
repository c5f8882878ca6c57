import RapidUpload.ErrorCode
import RapidUpload.Rehearsal.Record

/-!
# Scripted services

A service that answers from a script: one item for each upload created, one for every completion,
and the addresses whose parts fail.
-/

namespace RapidUpload.Rehearsal

/-- An answer of a script. -/
inductive Turn where
  | ok (v : Json)
  | rejected (status : Int) (payload : Json)
  | lost (text : String)

/-- An answer, and the token the service holds from then on if it changes. -/
structure Item where
  token : Option (Option String)
  reply : Turn

/-- A service with its script. -/
structure Script where
  token : Option String
  driveId : Json
  creates : List Item
  completion : Option Item
  failing : List Json

/-- What an answer comes to. -/
def Turn.give {σ : Type} : Turn → Act σ Json
  | .ok v => pure v
  | .rejected status payload =>
    match Rejection.ofAnswer status payload with
    | .ok r => Act.fail (.rejected r)
    | .error e => Act.fail e
  | .lost text => Act.fail (.transport (.other text) .null)

namespace Script

/-- Answers with an item. -/
def play (item : Item) : Act Script Json := do
  match item.token with
  | some token => Act.change fun s => { s with token := token }
  | none => pure ()
  item.reply.give

instance : DriveService Script where
  accessToken s := s.token
  createUpload _ := do
    match (← Act.look).creates with
    | [] => Act.fail (.transport (.other "no scripted response") .null)
    | item :: rest =>
      Act.change fun s => { s with creates := rest }
      play item
  uploadPart url _ := do
    if (← Act.look).failing.any (Json.same url) then
      Act.fail (.transport (.other ("Part upload failed with HTTP 403: " ++ url.shown)) .null)
  completeUpload _ fileId _ := do
    match (← Act.look).completion with
    | some item => play item
    | none => return .obj [("file_id", fileId), ("name", "uploaded")]

instance : DriveAccount (Recorded Script) where
  setToken token r := { r with inner := { r.inner with token := token } }
  defaultDrive := do
    return (← Act.look).inner.driveId
  officePreview _ _ := Act.fail (.undefined .unsupported)
  videoPreview _ _ := Act.fail (.undefined .unsupported)
  close := Recorded.note .close

end Script

end RapidUpload.Rehearsal
