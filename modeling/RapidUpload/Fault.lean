import RapidUpload.Json.Literal

/-!
# Faults

Why an action ends without a result, as causes; `Fault.message` words each one.

* `Fault.isOwn`: the faults the library reports as its own: the server's refusals, the
  transport's failures, answers outside the protocol, and local storage that cannot be used.
  Each carries what the server sent, `Fault.payload`.
* `Refusal`: a request the library turns down before it does anything.
* `Undefined`: an operation with no result on the value it was given.
-/

namespace RapidUpload

/-- Why the local disk turns an operation down. -/
inductive DiskFault where
  /-- Nothing is found at the path. -/
  | missing (path : String)
  /-- A part of the path is a file. -/
  | notFolder (path : String)
  /-- A folder stands at the path. -/
  | isFolder (path : String)
  /-- The path or one of its names is too long. -/
  | longName (path : String)
  /-- A NUL stands in the path. -/
  | brokenPath
  /-- Half of a pair stands in the path. -/
  | halfPath
  /-- The number given makes no sense. -/
  | invalid
  /-- No room is left. -/
  | full
  /-- Another fault of the system, by its number and its text, and the path it is about. -/
  | system (number : Nat) (text : String) (path : Option String)
deriving DecidableEq

/-- A path in quotes. -/
def quotedPath (path : String) : String :=
  String.ofList (Json.literalText path)

/-- The wording of a disk's fault. -/
def DiskFault.message : DiskFault → String
  | .missing path => "[Errno 2] No such file or directory: " ++ quotedPath path
  | .notFolder path => "[Errno 20] Not a directory: " ++ quotedPath path
  | .isFolder path => "[Errno 21] Is a directory: " ++ quotedPath path
  | .longName path => "[Errno 36] File name too long: " ++ quotedPath path
  | .brokenPath => "embedded null byte"
  | .halfPath => "half of a pair in a path"
  | .invalid => "[Errno 22] Invalid argument"
  | .full => "[Errno 28] No space left on device"
  | .system number text path =>
    "[Errno " ++ toString number ++ "] " ++ text ++ path.elim "" (": " ++ quotedPath ·)

/-- What was being done to a spill file. -/
inductive SpillStep where
  | write | flush | seek | read | close
deriving DecidableEq

/-- The verb of a step. -/
def SpillStep.verb : SpillStep → String
  | .write => "write"
  | .flush => "flush"
  | .seek => "seek"
  | .read => "read"
  | .close => "close"

/-- Why local storage cannot be used. -/
inductive StorageCause where
  /-- No temp file could be made. -/
  | create (reason : DiskFault)
  /-- A step on the temp file failed. -/
  | step (what : SpillStep) (path : String) (reason : DiskFault)
  /-- Nothing has been written yet. -/
  | unwritten
  | other (text : String)

/-- The wording of a storage fault. -/
def StorageCause.message : StorageCause → String
  | .create reason => "Could not create temp file: " ++ reason.message
  | .step what path reason =>
    "Could not " ++ what.verb ++ " temp file " ++ path ++ ": " ++ reason.message
  | .unwritten => "Spill file has not been written yet"
  | .other text => text

/-- Why a request could not be carried out. -/
inductive TransportCause where
  /-- The client was closed before. -/
  | closed
  /-- The connection failed. -/
  | network (text : String)
  /-- A part's target answered with an error status. -/
  | partRefused (status : Int)
  /-- The account has no default drive. -/
  | noDrive
  | other (text : String)

/-- The wording of a transport's failure. -/
def TransportCause.message : TransportCause → String
  | .closed => "Client is closed"
  | .network text => "Network error: " ++ text
  | .partRefused status => "Part upload failed with HTTP " ++ toString status
  | .noDrive => "Could not resolve default drive id"
  | .other text => text

/-- Where an answer leaves the upload protocol. -/
inductive MismatchCause where
  /-- A transfer is needed and no session was allocated. -/
  | noSession
  /-- The completion does not name the file. -/
  | unconfirmed
  | other (text : String)

/-- The wording of a mismatch, without the payload. -/
def MismatchCause.message : MismatchCause → String
  | .noSession => "Negotiation did not allocate an upload session"
  | .unconfirmed => "Upload completion did not confirm the file"
  | .other text => text

/-- A structured error of the server: the code, its explanation, the status of the answer, and
the answer. The server may send any value for the first two. -/
structure Rejection where
  code : Json
  text : Json
  status : Int
  payload : Json

/-- The wording of a rejection. -/
def Rejection.message (r : Rejection) : String :=
  r.code.shown ++ " (" ++ toString r.status ++ "): " ++ r.text.shown

/-- A request turned down before anything is done. -/
inductive Refusal where
  | negativeSize (n : Int)
  | negativeFileSize (n : Int)
  | partSize
  | prehashSize
  | sampleBudget
  | noName
  | noSize
  | notAFile (path : String)
  | fileNotFound (path : String)
  | textStream
  | unsupportedSource (kind : String)

/-- The wording of a refusal. -/
def Refusal.message : Refusal → String
  | .negativeSize n => "Declared size must be >= 0, got " ++ toString n
  | .negativeFileSize n => "File size must be >= 0, got " ++ toString n
  | .partSize => "Part size must be positive"
  | .prehashSize => "Pre-hash size must be >= 0"
  | .sampleBudget => "Sample budget must be >= 0"
  | .noName => "A file name is required for stream uploads"
  | .noSize => "A declared size is required for stream uploads"
  | .notAFile path => "Path is not a file: " ++ path
  | .fileNotFound path => "File not found: " ++ path
  | .textStream => "Upload streams must be opened in binary mode"
  | .unsupportedSource kind => "Unsupported upload source: " ++ kind

/-- An operation with no result on the value it was given. -/
inductive Undefined where
  /-- A text or a number without a whole part, where an integer is needed. -/
  | unreadableInteger
  /-- An infinity, where an integer is needed. -/
  | unboundedInteger
  /-- A value that holds no number, where an integer is needed. -/
  | noInteger
  /-- A value that holds no items, where a row is needed. -/
  | noRow
  /-- An array or an object, where a name to look up is needed. -/
  | noLookup
  /-- A value that is no text, where an address is needed. -/
  | noAddress
  /-- An integer of too many digits, to be read or to be written. -/
  | longInteger
  /-- Too many values one inside the other, to be read or to be written. -/
  | tooDeep
  /-- Half of a pair in a text that is needed in bytes. -/
  | halfPair
  /-- A size past the largest binary64 number. -/
  | sizeTooLarge
  /-- A count or a position outside sixty-four bits. -/
  | outOfRange
  /-- A position before the start of bytes in memory. -/
  | negativePosition
  /-- A position before the start of a file, or past the end of the longest. -/
  | unreachablePosition
  /-- A position of a file outside sixty-four bits. -/
  | noFilePosition
  /-- A count below minus one, of a file. -/
  | negativeCount
  /-- A count of bytes that memory has no room for. -/
  | noMemory
  /-- An operation that the object does not have. -/
  | unsupported
  /-- A read of all the rest that met the end where bytes are needed. -/
  | noRest
  /-- The disk turned an operation down. -/
  | disk (reason : DiskFault)
  /-- A file that holds no certificates, where some are needed. -/
  | noCertificates
  /-- A closing tag without an opening one, or a handler that stands for no value. -/
  | markup
  /-- A color with a component that is no number. -/
  | shade
  /-- A name that stands for no state. -/
  | unknownState

/-- The wording of an undefined operation. -/
def Undefined.message : Undefined → String
  | .disk reason => reason.message
  | .noCertificates => "no certificates found"
  | .unreadableInteger => "invalid literal for an integer"
  | .unboundedInteger => "cannot convert infinity to an integer"
  | .noInteger => "a number is required"
  | .noRow => "a row is required"
  | .noLookup => "a name is required"
  | .noAddress => "an address is a text"
  | .longInteger => "too many digits in an integer"
  | .tooDeep => "too many values one inside the other"
  | .halfPair => "half of a pair in a text"
  | .sizeTooLarge => "size too large"
  | .outOfRange => "number out of range"
  | .negativePosition => "negative position"
  | .unreachablePosition => "[Errno 22] Invalid argument"
  | .noFilePosition => "position out of range"
  | .negativeCount => "negative count"
  | .noMemory => "out of memory"
  | .unsupported => "no such operation"
  | .noRest => "bytes are required"
  | .markup => "markup error"
  | .shade => "a component of a color is a number"
  | .unknownState => "not a state"

/-- Why an action ends without a result. -/
inductive Fault where
  /-- A fault of the library without a kind of its own. -/
  | general (text : String) (payload : Json)
  /-- A request could not be carried out. -/
  | transport (cause : TransportCause) (payload : Json)
  /-- The server refused a request. -/
  | rejected (r : Rejection)
  /-- An answer is outside the upload protocol. -/
  | mismatch (cause : MismatchCause) (payload expected : Json)
  /-- Local storage cannot be used. -/
  | storage (cause : StorageCause) (payload : Json)
  /-- The request was turned down. -/
  | refused (r : Refusal)
  /-- An operation has no result on its value. -/
  | undefined (u : Undefined)
  /-- The caller's stream failed. -/
  | stream (text : String)
  /-- The caller's own code failed. -/
  | caller (text : String)

namespace Fault

/-- The wording of a fault. -/
def message : Fault → String
  | .general text _ => text
  | .transport cause _ => cause.message
  | .rejected r => r.message
  | .mismatch cause payload _ => cause.message ++ ": " ++ payload.literal
  | .storage cause _ => cause.message
  | .refused r => r.message
  | .undefined u => u.message
  | .stream text => text
  | .caller text => text

/-- A fault the library reports as its own. -/
def isOwn : Fault → Bool
  | .general _ _ | .transport _ _ | .rejected _ | .mismatch _ _ _ | .storage _ _ => true
  | .refused _ | .undefined _ | .stream _ | .caller _ => false

/-- What the server sent, for a fault of the library's own. -/
def payload : Fault → Json
  | .general _ p | .transport _ p | .mismatch _ p _ | .storage _ p => p
  | .rejected r => r.payload
  | .refused _ | .undefined _ | .stream _ | .caller _ => .null

end Fault

end RapidUpload
