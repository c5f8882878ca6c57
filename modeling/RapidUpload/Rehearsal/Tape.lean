import RapidUpload.Command.Run

/-!
# Tapes

A transport that keeps a tape of what is done to it, around any other one.
-/

namespace RapidUpload

/-- What is done to a transport, or something else that is kept in order with it. -/
inductive WireEvent where
  | opened (s : SessionSettings)
  | posted (p : Post)
  | put (p : Put)
  | sessionClosed
  | poolClosed
  | progress (percent : Int)
  /-- A task is shown with its progress. -/
  | task (description : String)
  /-- An upload has ended with so many temp files left. -/
  | ended (leftover : Nat)

/-- A transport and its tape. -/
structure Taped (τ : Type) where
  inner : τ
  events : Array WireEvent

namespace Taped

variable {τ : Type}

/-- A transport with nothing done to it yet. -/
def new (inner : τ) : Taped τ := ⟨inner, #[]⟩

/-- Puts an event on the tape. -/
def note (e : WireEvent) (t : Taped τ) : Taped τ := { t with events := t.events.push e }

/-- Puts an event on the tape of a client's transport. -/
def noteOn (e : WireEvent) : Act (HttpClient (Taped τ)) Unit :=
  Act.change fun c => { c with transport := c.transport.note e }

/-- Shows progress by events on the tape. -/
def bar : ProgressBar (HttpClient (Taped τ)) :=
  ⟨fun d => noteOn (.task d), fun n => noteOn (.progress n)⟩

/-- Percentages on the tape. -/
def percents (t : Taped τ) : List Int :=
  t.events.toList.filterMap fun
    | .progress n => some n
    | _ => none

instance [Transport τ] : Transport (Taped τ) where
  loadCertificates path t := Transport.loadCertificates path t.inner
  openSession s t :=
    let t := t.note (.opened s)
    { t with inner := Transport.openSession s t.inner }
  closeSession t :=
    let t := t.note .sessionClosed
    let (withPool, inner) := Transport.closeSession t.inner
    (withPool, { t with inner := inner })
  closePool t :=
    let t := t.note .poolClosed
    { t with inner := Transport.closePool t.inner }
  post p t :=
    let t := t.note (.posted p)
    let (r, inner) := Transport.post p t.inner
    (r, { t with inner := inner })
  put p t :=
    let t := t.note (.put p)
    let (r, inner) := Transport.put p t.inner
    (r, { t with inner := inner })

end Taped

end RapidUpload
