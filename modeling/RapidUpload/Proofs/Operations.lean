import RapidUpload.Proofs.Sessions
import RapidUpload.Proofs.Transports
import RapidUpload.Rehearsal.Wire

/-!
# Operations on a client

A client is entered, left, closed, given another token, and asked to send, in any order and however
often.

* `HttpClient.perform`: a run of operations, how each ended and what they leave.
* `HttpClient.perform_unmetered`: a run does what it does with its traffic kept.
* `HttpClient.life_cycle`: the sessions of a client over any operations.
-/

namespace RapidUpload

open Step

variable {τ β γ : Type}

/-! ### Metered and unmetered -/

theorem Metered.transports [Transport τ] :
    Transports (fun _ => Eq) Eq fun (m : Metered τ) (t : τ) => t = m.inner where
  certificates := by rintro m _ path rfl; rfl
  openSession := by rintro m _ config _ _ - rfl; rfl
  closeSession := by rintro m _ rfl; exact ⟨rfl, rfl⟩
  closePool := by rintro m _ rfl; rfl
  post := by rintro m _ p _ rfl rfl; exact ⟨rfl, rfl⟩
  put := by rintro m _ p rfl; exact ⟨rfl, rfl⟩

namespace HttpClient

/-- The same client without its traffic. -/
def unmetered (c : HttpClient (Metered τ)) : HttpClient τ :=
  ⟨c.config, c.token, c.closed, c.sessionOpen, c.poolOpen, c.room, c.transport.inner⟩

/-- The one client is the other with its traffic kept. -/
def Meters : HttpClient (Metered τ) → HttpClient τ → Prop :=
  Match fun (m : Metered τ) (t : τ) => t = m.inner

theorem meters_iff {c : HttpClient (Metered τ)} {d : HttpClient τ} :
    Meters c d ↔ d = c.unmetered := by
  constructor
  · rintro ⟨rfl, _, _, _, _, rfl⟩
    rfl
  · rintro rfl
    exact .mk _ _ _ _ _ _ rfl

end HttpClient

/-! ### Operations -/

/-- An operation on a client. -/
inductive Operation where
  | enter
  | exit
  | close
  | setToken (token : Option String)
  | request (endpoint : String) (body : Json)
  | uploadPart (url : Json) (data : ByteArray)

namespace Operation

/-- The operation closes the client. -/
def closes : Operation → Bool
  | .exit | .close => true
  | _ => false

/-- The operation sends something. -/
def sends : Operation → Bool
  | .request _ _ | .uploadPart _ _ => true
  | _ => false

variable [Transport τ]

/-- Carries an operation out. -/
def run : Operation → Act (HttpClient τ) Unit
  | .enter => HttpClient.ensureSession
  | .exit | .close => HttpClient.close
  | .setToken token => Act.change fun c => DriveAccount.setToken token c
  | .request endpoint body => do
    let _ ← HttpClient.request endpoint body
  | .uploadPart url data => HttpClient.uploadPart url data

/-- How the operation ends, and what it leaves. -/
def apply (op : Operation) (s : Logged (HttpClient τ)) :
    Except Fault Unit × Logged (HttpClient τ) :=
  match op.run s with
  | .ok _ t => (.ok (), t)
  | .error e t => (.error e, t)

end Operation

namespace HttpClient

variable [Transport τ]

/-- Carries operations out one after the other, each whatever became of those before: how they end,
and what they leave. -/
def perform : List Operation → Logged (HttpClient τ) →
    List (Except Fault Unit) × Logged (HttpClient τ)
  | [], s => ([], s)
  | op :: ops, s =>
    let (result, s) := op.apply s
    let (results, s) := perform ops s
    (result :: results, s)

theorem perform_cons (op : Operation) (ops : List Operation) (s : Logged (HttpClient τ)) :
    perform (op :: ops) s = ((op.apply s).1 :: (perform ops (op.apply s).2).1,
      (perform ops (op.apply s).2).2) := rfl

theorem perform_append (ops ops' : List Operation) (s : Logged (HttpClient τ)) :
    perform (ops ++ ops') s =
      ((perform ops s).1 ++ (perform ops' (perform ops s).2).1,
        (perform ops' (perform ops s).2).2) := by
  induction ops generalizing s with
  | nil => rfl
  | cons op ops ih =>
    rw [List.cons_append, perform_cons, ih, perform_cons]
    rfl

theorem length_perform (ops : List Operation) (s : Logged (HttpClient τ)) :
    (perform ops s).1.length = ops.length := by
  induction ops generalizing s with
  | nil => rfl
  | cons op ops ih => exact congrArg (· + 1) (ih _)

end HttpClient

namespace Operation

variable [Transport τ]

/-- An operation does what it does with its traffic kept. -/
theorem inStep_run (op : Operation) :
    InStep Eq (Told HttpClient.Meters) (op.run (τ := Metered τ)) (op.run (τ := τ)) := by
  have hV := Metered.transports (τ := τ)
  cases op with
  | enter => exact HttpClient.inStep_ensureSession hV
  | exit | close => exact HttpClient.inStep_close hV
  | setToken token =>
    refine inStep_change fun c d hcd => HttpClient.meters_iff.mpr ?_
    rw [HttpClient.meters_iff.mp hcd]
    rfl
  | request endpoint body =>
    exact (HttpClient.inStep_request hV (fun hk => HttpClient.posting_eq hk _ endpoint body)
      (fun _ => rfl) fun _ => rfl).bind fun _ _ _ => inStep_pure rfl
  | uploadPart url data => exact HttpClient.inStep_uploadPart hV url data

/-- Every operation brings the connections to where a client can bring them. -/
theorem moves_run (op : Operation) : Carries HttpClient.Moves (op.run (τ := Metered τ)) := by
  cases op with
  | enter =>
    refine fun s => (HttpClient.ensureSession_ends s).mono (fun _ _ h => h.2.2.2) ?_
    rintro e _ ⟨-, -, rfl⟩
    exact .refl
  | exit | close => exact HttpClient.moves_close
  | setToken token => exact HttpClient.moves_change fun _ => rfl
  | request endpoint body =>
    exact HttpClient.onward_moves.bind (HttpClient.moves_of_call (HttpClient.request_ends _ _))
      fun _ => HttpClient.onward_moves.pure _
  | uploadPart url data => exact HttpClient.moves_of_call (HttpClient.uploadPart_ends _ _)

theorem moves_apply (op : Operation) (s : Logged (HttpClient (Metered τ))) :
    HttpClient.Moves s (op.apply s).2 := by
  unfold apply
  cases hr : op.run s with
  | ok _ t =>
    have hmoves := ends_of_ok (op.moves_run s) hr
    exact hmoves
  | error e t =>
    have hmoves := ends_of_error (op.moves_run s) hr
    exact hmoves

end Operation

namespace HttpClient

variable [Transport τ]

/-- A run of operations does what it does with its traffic kept. -/
theorem perform_unmetered (ops : List Operation) (c : HttpClient (Metered τ))
    (log : Array Log.Line) :
    perform ops ⟨c.unmetered, log⟩ = ((perform ops ⟨c, log⟩).1,
      ⟨(perform ops ⟨c, log⟩).2.state.unmetered, (perform ops ⟨c, log⟩).2.log⟩) := by
  induction ops generalizing c log with
  | nil => rfl
  | cons op ops ih =>
    have hop : op.apply ⟨c.unmetered, log⟩ = ((op.apply ⟨c, log⟩).1,
        ⟨(op.apply ⟨c, log⟩).2.state.unmetered, (op.apply ⟨c, log⟩).2.log⟩) := by
      have h := op.inStep_run ⟨c, log⟩ ⟨c.unmetered, log⟩ (.mk (meters_iff.mpr rfl) log)
      unfold Operation.apply
      generalize op.run ⟨c, log⟩ = x at h
      generalize op.run (⟨c.unmetered, log⟩ : Logged (HttpClient τ)) = y at h
      cases h with
      | ok h =>
        obtain ⟨-, h, hlog⟩ := h
        cases meters_iff.mp h
        cases hlog trivial
        rfl
      | error e h =>
        obtain ⟨h, hlog⟩ := h
        cases meters_iff.mp h
        cases hlog trivial
        rfl
    rw [perform_cons, hop, ih, perform_cons]

/-- So does every run of them. -/
theorem moves_perform (ops : List Operation) (s : Logged (HttpClient (Metered τ))) :
    Moves s (perform ops s).2 := by
  induction ops generalizing s with
  | nil => exact .refl
  | cons op ops ih => exact (op.moves_apply s).trans (ih _)

/-- An operation that closes leaves the client closed, with nothing open. -/
theorem apply_closes {op : Operation} (h : op.closes = true)
    (s : Logged (HttpClient (Metered τ))) :
    ∃ withPool, (op.apply s).2.state.books = s.state.books.shut withPool := by
  have hrun : op.run = (close : Act (HttpClient (Metered τ)) Unit) := by
    cases op <;> first | rfl | cases h
  obtain ⟨_, t, hclose, ht⟩ := ok_of_ends (close_ends s)
  rw [Operation.apply, hrun, hclose]
  exact ht

/-- A closed client turns everything down that would send something. -/
theorem perform_of_closed (ops : List Operation) {s : Logged (HttpClient (Metered τ))}
    (hc : s.state.closed = true) :
    ∀ done ∈ ops.zip (perform ops s).1, done.1.sends = true →
      done.2 = .error (.transport .closed .null) := by
  induction ops generalizing s with
  | nil => exact fun _ h => nomatch h
  | cons op ops ih =>
    have hnext := ih (((op.moves_apply s).closed hc).1)
    refine List.forall_mem_cons.mpr ⟨fun hsends => ?_, hnext⟩
    have herr : op.run s = .error (.transport .closed .null) s := by
      cases op with
      | request endpoint body =>
        have h := error_of_closed (request_ends endpoint body s) hc
        simp only [Operation.run, Bind.bind, EStateM.bind, h]
      | uploadPart url data => exact error_of_closed (uploadPart_ends url data s) hc
      | enter | exit | close | setToken => cases hsends
    show (op.apply s).1 = _
    rw [Operation.apply, herr]

/-- **The sessions of a client.**  Over any operations at most one session is open at a time, opened
only once all earlier ones were closed with their pools.  After each operation that closes, every
session and every pool was closed once, and closing again changes nothing; from then on nothing is
sent, and what would send fails. -/
theorem life_cycle (token : Option String) (config : HttpConfig) (transport : τ)
    (ops : List Operation) :
    let start : Logged (HttpClient (Metered τ)) := ⟨.new token config (.new transport), #[]⟩
    Traffic.Orderly (perform ops start).2.state.transport.traffic ∧
      ∀ before op after, ops = before ++ op :: after → op.closes = true →
        let closed := (perform (before ++ [op]) start).2
        (∀ lease ∈ Traffic.leases closed.state.transport.traffic, lease = .returned) ∧
          close closed = .ok () closed ∧
          Traffic.requests (perform ops start).2.state.transport.traffic =
            Traffic.requests closed.state.transport.traffic ∧
          ∀ done ∈ after.zip ((perform ops start).1.drop (before.length + 1)),
            done.1.sends = true → done.2 = .error (.transport .closed .null) := by
  intro start
  have hstart : start.state.books.Balanced := Books.balanced_nil
  refine ⟨(hstart.reaches (moves_perform ops start)).orderly, ?_⟩
  rintro before op after rfl hop
  intro closed
  have hbalanced : closed.state.books.Balanced := hstart.reaches (moves_perform _ start)
  obtain ⟨withPool, hshut⟩ : ∃ withPool, closed.state.books =
      (perform before start).2.state.books.shut withPool := by
    have happly := apply_closes hop (perform before start).2
    have heq : closed = (op.apply (perform before start).2).2 := by
      show (perform (before ++ [op]) start).2 = _
      rw [perform_append]
      rfl
    rwa [heq]
  have hc : closed.state.closed = true := congrArg Books.closed hshut
  have hs : closed.state.sessionOpen = false := congrArg Books.sessionOpen hshut
  have hp : closed.state.poolOpen = false := congrArg Books.poolOpen hshut
  have hsplit : perform (before ++ op :: after) start =
      ((perform (before ++ [op]) start).1 ++ (perform after closed).1,
        (perform after closed).2) := by
    rw [List.append_cons, perform_append]
  refine ⟨hbalanced.returned_iff.mpr hs, close_of_closed hc hs hp, ?_, ?_⟩
  · rw [hsplit]
    exact ((moves_perform after closed).closed hc).2
  · have hlength : before.length + 1 = (perform (before ++ [op]) start).1.length := by
      rw [length_perform, List.length_append, List.length_singleton]
    rw [hsplit, hlength, List.drop_left]
    exact perform_of_closed after hc

end HttpClient

namespace Rehearsal

/-- A client that is entered again after it was closed. -/
def reentry : List Operation :=
  [.enter, .request "/v2/user/get" .null, .close, .request "/v2/user/get" .null, .enter, .exit]

/-- An answer to one request, over pools that outlive their sessions. -/
def pooled : Wire := ⟨[.ok ⟨200, .ok ""⟩], true, roomy⟩

end Rehearsal

open Rehearsal in
theorem HttpClient.life_cycle_reentry :
    let start : Logged (HttpClient (Metered Wire)) := ⟨.new none .standard (.new pooled), #[]⟩
    let leases := Traffic.leases (perform reentry start).2.state.transport.traffic
    leases.length = 2 ∧ (∀ lease ∈ leases, lease = .returned) ∧
      ∀ done ∈ (reentry.drop 3).zip ((perform reentry start).1.drop 3), done.1.sends = true →
        done.2 = .error (.transport .closed .null) := by
  have h := (life_cycle none .standard pooled reentry).2
  refine ⟨by decide +kernel, ?_, ?_⟩
  · exact (h (reentry.take 5) .exit [] rfl rfl).1
  · exact (h (reentry.take 2) .close (reentry.drop 3) rfl rfl).2.2.2

end RapidUpload
