import RapidUpload.Part
import RapidUpload.Possession

/-!
# Requests for an upload

What the server is told when an upload is created: the file's place and size, the parts wanted,
and in each phase of a negotiation one kind of hash.
-/

namespace RapidUpload

/-- What a phase of a negotiation shows of the content. -/
inductive Evidence where
  /-- The SHA-1 of the first bytes. -/
  | preHash (hash : String)
  /-- The hash of everything and a proof that it is at hand. -/
  | fullHash (hash proof version hashName : String)

/-- The fields of a piece of evidence. -/
def Evidence.fields : Evidence → List (String × Json)
  | .preHash hash => [("pre_hash", hash)]
  | .fullHash hash proof version hashName =>
    [("content_hash", hash), ("content_hash_name", hashName), ("proof_code", proof),
      ("proof_version", version)]

/-- The file an upload is for. The drive goes by whatever value the server gave for it. -/
structure Request where
  driveId : Json
  name : String
  parentId : String
  size : Int
  parts : List Part
  checkNameMode : String

namespace Request

/-- The fields that every phase sends. -/
def fields (r : Request) : List (String × Json) :=
  [("check_name_mode", r.checkNameMode), ("drive_id", r.driveId), ("name", r.name),
    ("parent_file_id", r.parentId), ("part_info_list", .arr (r.parts.map Part.toJson)),
    ("size", .int r.size), ("type", "file")]

/-- The body of a phase. -/
def body (r : Request) (evidence : Option Evidence) : Json :=
  .obj (r.fields ++ (evidence.map Evidence.fields).getD [])

end Request

end RapidUpload
