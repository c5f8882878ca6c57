import RapidUpload.Http.Config

/-!
# HTTP transports

What the client needs of the network: sessions over a pool of connections, and two kinds of
requests.  A request that fails is an answer too; a part can be sent to an address only, and what
the server gave for one may be none.
-/

namespace RapidUpload

/-- What a session is opened with. -/
structure SessionSettings where
  headers : List (String × String)
  limitPerHost : Int
  verification : Verification
  timeouts : Timeouts

/-- A request that carries JSON. -/
structure Post where
  url : String
  data : String
  headers : List (String × String)
  proxy : Option String

/-- A request that carries the bytes of a part, without a content type. -/
structure Put where
  url : Json
  data : ByteArray
  proxy : Option String

/-- An answer: its status, and its text or why the text cannot be read. -/
structure Response where
  status : Int
  text : Except String String

/-- An answer, or why there is none. -/
abbrev Reply := Except String Response

/-- A transport for HTTP. -/
class Transport (τ : Type) where
  /-- Loads the certificates at a path. -/
  loadCertificates : String → τ → Except Fault Unit
  /-- Opens a session over a pool of its own. -/
  openSession : SessionSettings → τ → τ
  /-- Closes the session, and tells whether the pool was closed with it. -/
  closeSession : τ → Bool × τ
  /-- Closes the pool. -/
  closePool : τ → τ
  post : Post → τ → Reply × τ
  /-- The reply, unless what stands for the address is none. -/
  put : Put → τ → Option Reply × τ

end RapidUpload
