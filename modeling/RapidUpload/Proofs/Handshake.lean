import RapidUpload.Proofs.Watch

/-!
# What a negotiation asks and comes to

A negotiation makes one request to create the upload, or two where the server answers a sample with
a demand for the full hash.  What it comes to is a function of how these requests ended.

* `Verdict.of`: the server's verdict in how one request ended.
* `settle`: what all of them come to.
* `Handshake`: the attempts of a negotiation.
-/

namespace RapidUpload

/-! ### From answers to outcomes -/

/-- The verdict in how a request ended; one without a verdict ends the negotiation. -/
def Verdict.of : Except Fault Json → Except Fault Verdict
  | .ok j => (Answer.ofJson j).map .accepted
  | .error (.rejected r) =>
    match ErrorCode.isChallenge r.code with
    | .ok true => .ok (.challenged ⟨r.code, r.payload⟩)
    | .ok false => .error (.rejected r)
    | .error e => .error e
  | .error e => .error e

/-- A transfer into the session of an answer, which must have one that can be told of. -/
def Outcome.into (answer : Answer) (supply : Supply) : Except Fault Outcome :=
  match answer.session with
  | none => .error (MismatchCause.noSession.fault answer.raw .null)
  | some session => session.fileId.told.map fun _ =>
    ⟨.transferRequired, answer, some session, answer.parts, some supply⟩

theorem Outcome.into_ok {answer : Answer} {supply : Supply} {out : Outcome}
    (h : into answer supply = .ok out) : ∃ session, answer.session = some session ∧
      out = ⟨.transferRequired, answer, some session, answer.parts, some supply⟩ := by
  unfold into at h
  split at h
  · cases h
  · rename_i session hs
    cases ht : session.fileId.told with
    | error e =>
      rw [ht] at h
      cases h
    | ok told =>
      rw [ht] at h
      exact ⟨session, hs, (Except.ok.inj h).symm⟩

/-- The file of the session was told of. -/
theorem Outcome.into_told {answer : Answer} {supply : Supply} {out : Outcome}
    (h : into answer supply = .ok out) {session : Session} (hs : out.session = some session) :
    session.fileId.isShort = true := by
  unfold into at h
  split at h
  · cases h
  · rename_i session' _
    rw [Json.told] at h
    split at h
    · rename_i hshort
      cases h
      cases hs
      exact hshort
    · cases h

/-- What the verdict on a sample comes to, unless the full hash is asked for. -/
def Outcome.ofSample (answer : Answer) : Except Fault Outcome :=
  if answer.rapid then .ok ⟨.rapidConfirmed, answer, answer.session, [], none⟩
  else into answer .replay

/-- What the verdict on the full hash comes to; an earlier answer may have the session. -/
def Outcome.ofProof (previous : Option Answer) : Verdict → Except Fault Outcome
  | .accepted answer =>
    if answer.rapid then .ok ⟨.rapidConfirmedByProof, answer, answer.session, [], none⟩
    else into (Negotiator.withSession answer previous) .spill
  | .challenged challenge => do
    let answer ← Answer.ofJson challenge.payload
    into (Negotiator.withSession answer previous) .spill

/-- What the requests of a negotiation come to by how they ended; nothing yet where another one must
follow. -/
def settle : Bool → List (Except Fault Json) → Option (Except Fault Outcome)
  | false, [full] => some (Verdict.of full >>= Outcome.ofProof none)
  | true, [sample] =>
    match Verdict.of sample with
    | .error e => some (.error e)
    | .ok (.accepted answer) => some (Outcome.ofSample answer)
    | .ok (.challenged challenge) =>
      match Answer.ofJson challenge.payload with
      | .error e => some (.error e)
      | .ok _ => none
  | true, [sample, full] =>
    match Verdict.of sample with
    | .ok (.challenged challenge) =>
      match Answer.ofJson challenge.payload with
      | .error _ => none
      | .ok previous => some (Verdict.of full >>= Outcome.ofProof (some previous))
    | _ => none
  | _, _ => none

section Settle

variable {x y : Except Fault Json} {answer : Answer} {challenge : Challenge} {e : Fault}

theorem settle_error (h : Verdict.of x = .error e) : settle true [x] = some (.error e) := by
  rw [settle, h]

theorem settle_accepted (h : Verdict.of x = .ok (.accepted answer)) :
    settle true [x] = some (Outcome.ofSample answer) := by
  rw [settle, h]

theorem settle_unreadable (h : Verdict.of x = .ok (.challenged challenge))
    (ha : Answer.ofJson challenge.payload = .error e) : settle true [x] = some (.error e) := by
  simp only [settle, h, ha]

theorem settle_challenged (h : Verdict.of x = .ok (.challenged challenge))
    (ha : Answer.ofJson challenge.payload = .ok answer) : settle true [x] = none := by
  simp only [settle, h, ha]

theorem settle_both (h : Verdict.of x = .ok (.challenged challenge))
    (ha : Answer.ofJson challenge.payload = .ok answer) :
    settle true [x, y] = some (Verdict.of y >>= Outcome.ofProof (some answer)) := by
  simp only [settle, h, ha]

/-- An outcome without a rapid upload is a transfer into the session of an answer. -/
theorem Outcome.ofSample_ok {out : Outcome} (h : ofSample answer = .ok out)
    (hr : out.stage.isRapid = false) : ∃ answer supply, into answer supply = .ok out := by
  unfold ofSample at h
  split at h
  · cases h
    cases hr
  · exact ⟨_, _, h⟩

theorem Outcome.ofProof_ok {previous : Option Answer} {verdict : Verdict} {out : Outcome}
    (h : ofProof previous verdict = .ok out) (hr : out.stage.isRapid = false) :
    ∃ answer supply, into answer supply = .ok out := by
  cases verdict with
  | accepted answer =>
    unfold ofProof at h
    dsimp only at h
    split at h
    · cases h
      cases hr
    · exact ⟨_, _, h⟩
  | challenged challenge =>
    unfold ofProof at h
    dsimp only at h
    cases ha : Answer.ofJson challenge.payload with
    | error e =>
      rw [ha] at h
      cases h
    | ok answer =>
      rw [ha] at h
      exact ⟨_, _, h⟩

theorem settle_ok {rapid : Bool} {results : List (Except Fault Json)} {out : Outcome}
    (h : settle rapid results = some (.ok out)) (hr : out.stage.isRapid = false) :
    ∃ answer supply, Outcome.into answer supply = .ok out := by
  have proved : ∀ {previous x}, (Verdict.of x >>= Outcome.ofProof previous) = .ok out →
      ∃ answer supply, Outcome.into answer supply = .ok out := by
    intro previous x hx
    cases hv : Verdict.of x with
    | error e =>
      rw [hv] at hx
      cases hx
    | ok verdict =>
      rw [hv] at hx
      exact Outcome.ofProof_ok hx hr
  unfold settle at h
  split at h
  · exact proved (Option.some.inj h)
  · split at h
    · cases h
    · exact Outcome.ofSample_ok (Option.some.inj h) hr
    · split at h <;> cases h
  · split at h
    · split at h
      · cases h
      · exact proved (Option.some.inj h)
    · cases h
  · cases h

end Settle

/-- A request to create an upload, and how it ended. -/
structure Create where
  body : Json
  result : Except Fault Json

/-- The call of a request. -/
def Create.event (x : Create) : Event := .create x.body x.result

/-- The requests to create an upload among some calls. -/
def Event.creates (events : List Event) : List Create :=
  events.filterMap fun
    | .create body result => some ⟨body, result⟩
    | _ => none

theorem Event.creates_map_event (creates : List Create) :
    Event.creates (creates.map Create.event) = creates := by
  rw [Event.creates, List.filterMap_map]
  exact List.filterMap_some

/-- An attempt to create an upload: what it shows, and how it ended. -/
structure Attempt where
  evidence : Evidence
  result : Except Fault Json

namespace Attempt

/-- The request of an attempt. -/
def create (request : Request) (a : Attempt) : Create := ⟨request.body (some a.evidence), a.result⟩

/-- The call of an attempt. -/
def event (request : Request) (a : Attempt) : Event := (a.create request).event

/-- The attempt shows the full hash. -/
def isFull (a : Attempt) : Bool :=
  match a.evidence with
  | .preHash _ => false
  | .fullHash _ _ _ _ => true

end Attempt

/-- The attempts of a negotiation: a sample comes first where samples are tried, and the full hash
follows it only where it is asked for. -/
inductive Handshake (rapid : Bool) : List Attempt → Prop where
  | none : Handshake rapid []
  | sample {a : Attempt} (h : rapid = true) (ha : a.isFull = false) : Handshake rapid [a]
  | full {a : Attempt} (h : rapid = false) (ha : a.isFull = true) : Handshake rapid [a]
  | both {a b : Attempt} {challenge : Challenge} {previous : Answer} (h : rapid = true)
    (ha : a.isFull = false) (hc : Verdict.of a.result = .ok (.challenged challenge))
    (hp : Answer.ofJson challenge.payload = .ok previous) (hb : b.isFull = true) :
    Handshake rapid [a, b]

end RapidUpload
