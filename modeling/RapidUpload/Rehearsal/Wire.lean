import RapidUpload.Http.Transport
import RapidUpload.Http.Certificate
import RapidUpload.Disk

/-!
# Scripted transports

A transport that answers from a script, one answer for each request.

* `Wire.replyOf`: an answer as a script holds it.
-/

namespace RapidUpload.Rehearsal

/-- The answers still to come, whether a pool outlives its session, and the disk certificates are
looked for on. -/
structure Wire where
  replies : List Reply
  detached : Bool
  disk : Disk

namespace Wire

/-- The text of a field, empty for any other value. -/
def textIn (j : Json) (key : String) : String :=
  match j.field key with
  | .str s => s
  | _ => ""

/-- The answer an object stands for: its `network_error`, a `timeout`, or its `status`, 200 unless
given, with its `text` or a `text_error`. -/
def replyOf (j : Json) : Reply :=
  if (j.get? "network_error").isSome then .error (textIn j "network_error")
  else if (j.get? "timeout").isSome then .error ""
  else
    let status := match j.get? "status" with
      | some (.int n) => n
      | _ => 200
    .ok ⟨status,
      if (j.get? "text_error").isSome then .error (textIn j "text_error")
      else .ok (textIn j "text")⟩

/-- The next answer. -/
def next (w : Wire) : Reply × Wire :=
  match w.replies with
  | [] => (.error "no scripted response", w)
  | r :: rest => (r, { w with replies := rest })

instance : Transport Wire where
  loadCertificates path w :=
    match w.disk.readFile path with
    | .error reason => .error (.undefined (.disk reason))
    | .ok bytes =>
      if Certificate.standsIn bytes then .ok () else .error (.undefined .noCertificates)
  openSession _ w := w
  closeSession w := (!w.detached, w)
  closePool w := w
  post _ w := w.next
  put _ w :=
    let (r, w) := w.next
    (some r, w)

end Wire

end RapidUpload.Rehearsal
