import RapidUpload.Part

/-!
# Answers to a request for an upload

What the server's answer comes to: the session it allocated, the parts with their addresses, and
whether it has the content already.  The server may send anything: a value of another kind counts
as an empty answer.
-/

namespace RapidUpload

/-- A session of the server for one upload, by whatever values it gave. -/
structure Session where
  fileId : Json
  uploadId : Json

/-- An answer, and the value it was read from. -/
structure Answer where
  fileId : Json
  uploadId : Json
  parts : List Part
  rapid : Bool
  raw : Json

namespace Answer

/-- Nothing allocated. -/
def empty : Answer := ⟨"", "", [], false, .obj []⟩

/-- The session, when both its ids were given. -/
def session (a : Answer) : Option Session :=
  if a.fileId.truthy && a.uploadId.truthy then some ⟨a.fileId, a.uploadId⟩ else none

/-- Reads an answer. -/
def ofJson : Json → Except Fault Answer
  | .obj fields => do
    let field (key : String) : Json := (Json.find? key fields).getD .null
    let parts ← Part.ofList (field "part_info_list")
    return ⟨(field "file_id").orElse "", (field "upload_id").orElse "", parts,
      (field "rapid_upload").truthy, .obj fields⟩
  | _ => .ok empty

end Answer

end RapidUpload
