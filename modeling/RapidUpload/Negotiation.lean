import RapidUpload.Sample
import RapidUpload.Spill
import RapidUpload.Possession
import RapidUpload.Request
import RapidUpload.Answer
import RapidUpload.ErrorCode
import RapidUpload.Service

/-!
# Negotiations

The handshake that decides whether bytes must be sent.  First the server sees the hash of a
sample; if it knows such content it may ask for the full hash with a proof of possession.  Without
rapid upload the full hash is sent at once.

* `Stage`: where a negotiation stands.
* `Negotiator.negotiate`: the handshake; its `Outcome` says whether to transfer, into which
  session, which parts, and where the bytes come from.
-/

namespace RapidUpload

/-- Where a negotiation stands. -/
inductive Stage where
  | prehashPending
  | rapidConfirmed
  | hashChallengeIssued
  | rapidConfirmedByProof
  | transferRequired
deriving DecidableEq

namespace Stage

/-- All stages, in the order they can be reached. -/
def all : List Stage :=
  [.prehashPending, .rapidConfirmed, .hashChallengeIssued, .rapidConfirmedByProof,
    .transferRequired]

/-- The value a stage goes by. -/
def value : Stage → String
  | .prehashPending => "prehash_pending"
  | .rapidConfirmed => "rapid_confirmed"
  | .hashChallengeIssued => "hash_challenge_issued"
  | .rapidConfirmedByProof => "rapid_confirmed_2"
  | .transferRequired => "transfer_required"

/-- The name of a stage: its value in capitals. -/
def name (s : Stage) : String := s.value.toUpper

/-- The stage of a value. -/
def ofValue (v : String) : Except Fault Stage :=
  match all.find? (·.value = v) with
  | some s => .ok s
  | none => .error (.undefined .unknownState)

/-- Bytes must be sent. -/
def requiresTransfer (s : Stage) : Bool := s = .transferRequired

/-- The server has the content already. -/
def isRapid (s : Stage) : Bool := s = .rapidConfirmed || s = .rapidConfirmedByProof

end Stage

/-- Where the bytes of a transfer come from. -/
inductive Supply where
  | replay
  | spill
deriving DecidableEq

/-- What a negotiation comes to. -/
structure Outcome where
  stage : Stage
  /-- The last answer. -/
  answer : Answer
  /-- The session to transfer into. -/
  session : Option Session
  /-- The parts to transfer. -/
  parts : List Part
  /-- Where the bytes come from, standing at the start. -/
  supply : Option Supply

/-- What a negotiation works on. -/
structure Scene (ρ α : Type) where
  /-- The stream, with a sample in front once one was taken. -/
  stream : Replay ρ
  service : α
  spill : Spill
  stage : Stage

namespace Scene

variable {ρ α : Type}

/-- The stream behind a sample. -/
def inner : Focus (Scene ρ α) ρ :=
  ⟨fun s => s.stream.inner, fun r s => { s with stream := { s.stream with inner := r } }⟩

/-- The stream. -/
def theStream : Focus (Scene ρ α) (Replay ρ) := ⟨stream, fun r s => { s with stream := r }⟩

/-- The service. -/
def theService : Focus (Scene ρ α) α := ⟨service, fun a s => { s with service := a }⟩

/-- The spill. -/
def theSpill : Focus (Scene ρ α) Spill := ⟨spill, fun p s => { s with spill := p }⟩

end Scene

/-- What the server says to a phase. -/
inductive Verdict where
  | accepted (a : Answer)
  | challenged (c : Challenge)

/-- How to negotiate: whether to try the sample first, and how much it takes. -/
structure Negotiator where
  rapid : Bool
  sampler : Sampler

namespace Negotiator

variable {ρ α : Type} [Reader ρ] [DriveService α]

/-- Moves to a stage. -/
def enter (stage : Stage) : Act (Scene ρ α) Unit :=
  Act.change fun s => { s with stage := stage }

/-- Sends a phase. A refusal whose code asks for more is the server's verdict; another one ends
the negotiation. -/
def submit (request : Request) (evidence : Evidence) : Act (Scene ρ α) Verdict := do
  match ← (Act.within Scene.theService
      (DriveService.createUpload (request.body (some evidence)))).outcome with
  | .ok j =>
    let answer ← Act.ofExcept (Answer.ofJson j)
    return .accepted answer
  | .error (.rejected r) =>
    if ← Act.ofExcept (ErrorCode.isChallenge r.code) then
      return .challenged ⟨r.code, r.payload⟩
    else
      Act.tell .error .negotiator ["Create upload failed for ", request.name, ": ", r.message]
      Act.fail (.rejected r)
  | .error e => Act.fail e

/-- The server has the content. -/
def confirm (request : Request) (stage : Stage) (answer : Answer) :
    Act (Scene ρ α) Outcome := do
  enter stage
  Act.tell .info .negotiator ["Rapid upload confirmed for ", request.name]
  return ⟨stage, answer, answer.session, [], none⟩

/-- Bytes must be sent, into the session of the answer. -/
def requireTransfer (answer : Answer) (supply : Supply) : Act (Scene ρ α) Outcome := do
  match answer.session with
  | none => Act.fail (MismatchCause.noSession.fault answer.raw .null)
  | some session =>
    let fileId ← Act.ofExcept session.fileId.told
    Act.tell .info .negotiator ["Transfer required: ", toString answer.parts.length,
      " parts into ", fileId]
    return ⟨.transferRequired, answer, some session, answer.parts, some supply⟩

/-- The last answer, with the session of an earlier one where it has none itself, and then with
the earlier parts where it lists none. -/
def withSession (answer : Answer) (previous : Option Answer) : Answer :=
  match answer.session, previous with
  | none, some p =>
    if p.session.isSome then
      { fileId := p.fileId
        uploadId := p.uploadId
        parts := if answer.parts.isEmpty then p.parts else answer.parts
        rapid := false
        raw := answer.raw }
    else answer
  | _, _ => answer

/-- The stream goes into the spill, and its hash and the proof go to the server. -/
def prove (request : Request) (previous : Option Answer) : Act (Scene ρ α) Outcome := do
  let hasher ← Act.within (Scene.theStream.both Scene.theSpill) Spill.absorb
  if (hasher.length : Int) ≠ request.size then
    let declared ← Act.ofExcept (Integer.text request.size)
    Act.tell .warning .negotiator ["Stream yielded ", toString hasher.length, " bytes but ",
      declared, " were declared"]
  let token := (DriveService.accessToken (← Act.look).service).getD ""
  let window ← Act.within Scene.theSpill (Act.quiet (Possession.prove token request.size))
  Act.tell .debug .negotiator ["Proof window at offset ", toString window.offset, " (",
    toString window.bytes.size, " bytes)"]
  let evidence := Evidence.fullHash (hasher.hex sha1) window.encoded Possession.version "sha1"
  let answer ← match ← submit request evidence with
    | .accepted answer =>
      if answer.rapid then return ← confirm request .rapidConfirmedByProof answer
      pure answer
    | .challenged challenge =>
      Act.tell .info .negotiator ["Full hash not accepted for ", request.name,
        ", transfer required"]
      Act.ofExcept (Answer.ofJson challenge.payload)
  enter .transferRequired
  let answer := withSession answer previous
  Act.within Scene.theSpill (Act.quiet Spill.rewind)
  requireTransfer answer .spill

/-- Negotiates an upload of the bytes of `r`. -/
def negotiate (n : Negotiator) (request : Request) (r : ρ) : Act (Scene ρ α) Outcome := do
  Act.change fun s => { s with stream := .bare r, stage := .prehashPending }
  if n.rapid then
    let sample ← Act.within Scene.inner n.sampler.sample
    Act.change fun s => { s with stream := sample.replay s.stream.inner }
    let declared ← Act.ofExcept (Integer.text request.size)
    Act.tell .info .negotiator ["Submitting pre-hash for ", request.name, " (", declared,
      " bytes)"]
    match ← submit request (.preHash sample.preHash) with
    | .challenged challenge =>
      Act.tell .info .negotiator ["Pre-hash matched for ", request.name,
        ", proving full possession"]
      enter .hashChallengeIssued
      let previous ← Act.ofExcept (Answer.ofJson challenge.payload)
      prove request (some previous)
    | .accepted answer =>
      if answer.rapid then confirm request .rapidConfirmed answer
      else
        enter .transferRequired
        requireTransfer answer .replay
  else prove request none

end Negotiator

end RapidUpload
