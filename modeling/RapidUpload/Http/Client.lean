import RapidUpload.Http.Transport
import RapidUpload.Service
import RapidUpload.ErrorCode
import RapidUpload.Json.Parser
import RapidUpload.Json.Printer

/-!
# The HTTP client

An authenticated client over a transport.  A session is opened when one is needed and none is
open; once closed, the client sends nothing any more.

* `HttpClient.request`: sends JSON, if it can be written, and gives the value of the answer.
* `HttpClient.uploadPart`: sends the bytes of a part.
* `HttpClient.close`: closes what is open.
-/

namespace RapidUpload

/-- A client and the transport it works over. -/
structure HttpClient (τ : Type) where
  config : HttpConfig
  token : Option String
  /-- Closed for good. -/
  closed : Bool
  /-- A session is open. -/
  sessionOpen : Bool
  /-- The pool of the last session is open. -/
  poolOpen : Bool
  /-- The arrays and objects one inside the other that an answer may have; what is sent may have
  one more. -/
  room : Nat
  transport : τ

namespace HttpClient

variable {τ : Type}

/-- A client with nothing open. -/
def new (token : Option String) (config : HttpConfig) (transport : τ) : HttpClient τ :=
  ⟨config, token, false, false, false, Json.depthLimit, transport⟩

/-- The endpoint that creates uploads. -/
def createEndpoint : String := "/adrive/v2/file/createWithFolders"

/-- The endpoint that completes uploads. -/
def completeEndpoint : String := "/v2/file/complete"

/-- The endpoint that tells about the account. -/
def accountEndpoint : String := "/v2/user/get"

/-- The endpoint that shows documents. -/
def officeEndpoint : String := "/v2/file/get_office_preview_url"

/-- The endpoint that plays videos. -/
def videoEndpoint : String := "/v2/file/get_video_preview_play_info"

/-- What a session of the client is opened with. -/
def sessionSettings (c : HttpConfig) : SessionSettings :=
  ⟨c.headers, c.connectionLimit, c.verification, c.timeouts⟩

/-- The header that carries the token, when there is one. -/
def authorization (token : Option String) : List (String × String) :=
  match token.filter (· != "") with
  | some t => [("Authorization", "Bearer " ++ t)]
  | none => []

/-- The text, cut after so many characters. -/
def shorten (limit : Nat) (s : String) : String :=
  String.ofList (Text.ofCodes ((Text.codes s.toList).take limit))

/-- The value of an answer's text: the empty object for no text, and the text itself when it is no
JSON. -/
def decode (room : Nat) (text : String) : Except Fault Json :=
  if text = "" then .ok (.obj [])
  else
    match Json.read room text with
    | .ok v => .ok v
    | .error .malformed => .ok (.str text)
    | .error .longInteger => .error (.undefined .longInteger)
    | .error .tooDeep => .error (.undefined .tooDeep)

/-- The text of a body; no body is the empty object. -/
def encode (room : Nat) (body : Json) : Except Fault String :=
  match (body.orElse (.obj [])).write (room + 1) with
  | .ok text => .ok text
  | .error .longInteger => .error (.undefined .longInteger)
  | .error .tooDeep => .error (.undefined .tooDeep)

variable [Transport τ]

/-- Loads the certificates that are asked for. -/
def checkCertificates (c : HttpClient τ) : Except Fault Unit :=
  match c.config.verification with
  | .certificates (some path) => Transport.loadCertificates path c.transport
  | _ => .ok ()

/-- Opens a session unless one is open. -/
def ensureSession : Act (HttpClient τ) Unit := do
  let c ← Act.look
  if !c.sessionOpen then
    Act.ofExcept c.checkCertificates
    Act.change fun c =>
      { c with
        sessionOpen := true
        poolOpen := true
        transport := Transport.openSession (sessionSettings c.config) c.transport }

/-- A step of the transport. -/
def transact {β : Type} (f : τ → β × τ) : Act (HttpClient τ) β := do
  let (b, t) := f (← Act.look).transport
  Act.change fun c => { c with transport := t }
  return b

/-- Closes the session and then the pool, each only if it is open. -/
def close : Act (HttpClient τ) Unit := do
  Act.change fun c => { c with closed := true }
  if (← Act.look).sessionOpen then
    let poolClosed ← transact Transport.closeSession
    Act.change fun c => { c with sessionOpen := false, poolOpen := c.poolOpen && !poolClosed }
  if (← Act.look).poolOpen then
    Act.change fun c =>
      { c with poolOpen := false, transport := Transport.closePool c.transport }

/-- The connection failed. -/
def networkFault {β : Type} (lead text : String) : Act (HttpClient τ) β := do
  Act.tell .error .api [lead, text]
  Act.fail (.transport (.network text) .null)

/-- A closed client sends nothing. -/
def requireOpen : Act (HttpClient τ) Unit := do
  if (← Act.look).closed then Act.fail (.transport .closed .null)

/-- Sends JSON to an endpoint and gives the value of the answer; a status of 400 or above is a
rejection. A body that cannot be written is not sent. -/
def request (endpoint : String) (body : Json) : Act (HttpClient τ) Json := do
  requireOpen
  ensureSession
  let c ← Act.look
  let url := c.config.urlFor endpoint
  let data ← Act.ofExcept (encode c.room body)
  Act.tell .debug .api ["Request to ", url]
  Act.tell .debug .api ["Request data: ", shorten 300 data]
  let headers := ("Content-Type", "application/json") :: authorization c.token
  match ← transact (Transport.post ⟨url, data, headers, c.config.proxy⟩) with
  | .error text => networkFault "Network error: " text
  | .ok ⟨_, .error text⟩ => networkFault "Network error: " text
  | .ok ⟨status, .ok text⟩ =>
    Act.tell .debug .api ["Response data: ", shorten 1000 text]
    let value ← Act.ofExcept (decode c.room text)
    if 400 ≤ status then
      let r ← Act.ofExcept (Rejection.ofAnswer status value)
      Act.tell .debug .api ["API error from ", url, ": ", r.message]
      Act.fail (.rejected r)
    else return value

/-- Sends the bytes of a part to its address, with no header that carries the token. -/
def uploadPart (url : Json) (data : ByteArray) : Act (HttpClient τ) Unit := do
  requireOpen
  ensureSession
  let proxy := (← Act.look).config.proxy
  let lead := "Network error during part upload: "
  match ← transact (Transport.put ⟨url, data, proxy⟩) with
  | none => Act.fail (.undefined .noAddress)
  | some (.error text) => networkFault lead text
  | some (.ok ⟨status, text⟩) =>
    if 400 ≤ status then
      match text with
      | .error text => networkFault lead text
      | .ok text => Act.fail (.transport (.partRefused status) (.str text))

/-- The account's default drive; an answer that names none is a failure. -/
def defaultDrive : Act (HttpClient τ) Json := do
  let answer ← request accountEndpoint .null
  let drive := answer.field "default_drive_id"
  if drive.truthy then return drive
  else Act.fail (.transport .noDrive answer)

/-- The token as it is sent in a body. -/
def tokenJson (c : HttpClient τ) : Json := (c.token.map Json.str).getD .null

instance : DriveAccount (HttpClient τ) where
  accessToken c := c.token
  createUpload body := request createEndpoint body
  uploadPart := uploadPart
  completeUpload drive file upload :=
    request completeEndpoint
      (.obj [("drive_id", drive), ("file_id", file), ("upload_id", upload)])
  setToken token c := { c with token := token }
  defaultDrive := defaultDrive
  officePreview drive file := do
    let token := (← Act.look).tokenJson
    request officeEndpoint
      (.obj [("drive_id", drive), ("file_id", file), ("access_token", token)])
  videoPreview drive file :=
    request videoEndpoint
      (.obj [("drive_id", drive), ("file_id", file), ("category", "live_transcoding")])
  close := close

end HttpClient

end RapidUpload
