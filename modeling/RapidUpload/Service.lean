import RapidUpload.Act

/-!
# Drive services

The calls an upload makes, and those of an account.  A service answers with any value or fails;
what it does to its own state is its own affair.
-/

namespace RapidUpload

/-- A service that uploads go through. -/
class DriveService (α : Type) where
  /-- The token the service holds now. -/
  accessToken : α → Option String
  /-- Asks for an upload to be created. -/
  createUpload : Json → Act α Json
  /-- Sends the bytes of a part to its address. -/
  uploadPart : Json → ByteArray → Act α Unit
  /-- Asks for an upload to be completed, by its drive, its file and its session. -/
  completeUpload : Json → Json → Json → Act α Json

/-- A service with an account. -/
class DriveAccount (α : Type) extends DriveService α where
  /-- Holds another token from now on. -/
  setToken : Option String → α → α
  /-- The account's default drive. -/
  defaultDrive : Act α Json
  /-- What shows a document, by its drive and its file. -/
  officePreview : Json → Json → Act α Json
  /-- What plays a video, by its drive and its file. -/
  videoPreview : Json → Json → Act α Json
  /-- Ends all connections. -/
  close : Act α Unit

/-- What is called with the percentage reached. -/
abbrev Progress (α : Type) := Int → Act α Unit

end RapidUpload
