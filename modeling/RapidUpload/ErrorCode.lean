import RapidUpload.Fault

/-!
# Error codes of the server

* `ErrorCode.explain`: what a code means.
* `ErrorCode.isChallenge`: whether a code asks for the full hash.
* `Rejection.ofAnswer`: the rejection an answer with an error status stands for.

A code may be any value; an array or an object cannot be looked up.
-/

namespace RapidUpload

namespace ErrorCode

/-- The code that asks for the full hash. -/
def preHashMatched : String := "PreHashMatched"

/-- What the known codes mean. -/
def table : List (String × String) :=
  [(preHashMatched, "The pre-hash matched an existing object, prove full possession."),
    ("AccessTokenInvalid", "The access token is invalid or expired."),
    ("ForbiddenNoPermission.File", "No permission to access the file."),
    ("NotFound.File", "The specified file was not found."),
    ("NotFound.UploadId", "The upload session was not found or has expired."),
    ("InvalidParameter.ProofCode", "The proof code does not match the file content."),
    ("QuotaExhausted.Drive", "The drive has no space left."),
    ("TooManyRequests", "Request rate limit exceeded, try again later.")]

/-- What a code means. -/
def explain (code : Json) : Except Fault String :=
  if !code.truthy then .ok "Unknown error"
  else
    match code with
    | .str s => .ok ((table.lookup s).getD ("Unknown error: " ++ s))
    | .arr _ | .obj _ => .error (.undefined .noLookup)
    | v => .ok ("Unknown error: " ++ v.shown)

/-- Asks for the full hash. -/
def isChallenge : Json → Except Fault Bool
  | .str s => .ok (s == preHashMatched)
  | .arr _ | .obj _ => .error (.undefined .noLookup)
  | _ => .ok false

end ErrorCode

namespace Rejection

/-- A rejection; without an explanation of its own it has that of its code. -/
def make (code text : Json) (status : Int) (payload : Json) : Except Fault Rejection :=
  if text.truthy then .ok ⟨code, text, status, payload⟩
  else do
    let explanation ← ErrorCode.explain code
    return ⟨code, explanation, status, payload⟩

/-- The rejection an answer with an error status stands for; only an object holds a code. -/
def ofAnswer (status : Int) (payload : Json) : Except Fault Rejection :=
  if payload.isObj then make (payload.field "code") (payload.field "message") status payload
  else make .null ("HTTP " ++ toString status) status payload

end Rejection

/-- The server's demand for the full hash. -/
structure Challenge where
  code : Json
  payload : Json

/-- The wording of a challenge. -/
def Challenge.message (c : Challenge) : String := "challenge issued: " ++ c.code.shown

end RapidUpload
