import RapidUpload.Proofs.Handshake
import RapidUpload.Proofs.Window

/-!
# The exchanges of a negotiation

What a negotiation does to its service is a chain of requests: it leaves the service as the last of
them did, and comes to what they come to.  The full hash is shown by the whole content, and by the
token that the service holds at that time.

* `Exchange`: a request as it was made of a service.
* `Negotiation`: the exchanges of a negotiation, and what is shown in them.
* `Negotiator.negotiate_ends`: a negotiation ends in what its exchanges come to, and where bytes
  must be sent they are at hand from the start on.
-/

namespace RapidUpload

open Step

variable {ρ α : Type}

/-- What shows that a content is at hand under a declared size, with a token. -/
def Evidence.ofContent? (content : ByteArray) (token : String) (size : Nat) : Option Evidence :=
  (Possession.window? content token size).map fun window =>
    .fullHash (sha1.hex content) (Base64.encode window) Possession.version "sha1"

/-- The token a service holds; none counts as an empty one. -/
def DriveService.heldToken [DriveService α] (a : α) : String := (DriveService.accessToken a).getD ""

/-! ### Exchanges -/

/-- An attempt as it was made of a service: with the service and the lines told before and after. -/
structure Exchange (α : Type) extends Attempt where
  before : Logged α
  after : Logged α

namespace Exchange

variable [DriveService α] {request : Request} {x : Exchange α}

/-- The service was asked, and ended the request as the exchange has it. -/
def Made (request : Request) (x : Exchange α) : Prop :=
  (DriveService.createUpload (request.body (some x.evidence))).outcome x.before =
    .ok x.result x.after

/-- The full hash is shown, and for a stream that delivers it is the evidence of its content. -/
def Shows [Reader ρ] (request : Request) (stream : ρ) (x : Exchange α) : Prop :=
  x.isFull = true ∧ ∀ {limit content}, Delivers limit stream content →
    ∃ size : Nat, request.size = size ∧
      Evidence.ofContent? content (DriveService.heldToken x.before.state) size = some x.evidence

/-- From one state of a service to another one, request by request. -/
def Chain (request : Request) : α → List (Exchange α) → α → Prop
  | a, [], b => b = a
  | a, x :: xs, b => x.before.state = a ∧ x.Made request ∧ Chain request x.after.state xs b

end Exchange

namespace Exchange

variable [Reader ρ] [DriveService α] {request : Request} {x : Exchange α}

/-- What is shown of a stream that delivers all of another one is shown of that one. -/
theorem Shows.mono {π : Type} [Reader π] {r : ρ} {r' : π} (hx : x.Shows request r')
    (h : ∀ {limit content}, Delivers limit r content → Delivers limit r' content) :
    x.Shows request r :=
  ⟨hx.1, fun hd => hx.2 (h hd)⟩

end Exchange

/-- The exchanges of a negotiation about a stream, from one state of the service to another one.
The declared size is told of before a sample is shown. -/
structure Negotiation [Reader ρ] [DriveService α] (rapid : Bool) (request : Request) (stream : ρ)
    (a : α) (xs : List (Exchange α)) (b : α) : Prop where
  chain : Exchange.Chain request a xs b
  handshake : Handshake rapid (xs.map Exchange.toAttempt)
  shows : ∀ x ∈ xs, x.isFull = true → x.Shows request stream
  told : rapid = true → xs ≠ [] → Integer.Short request.size

namespace Negotiation

variable [Reader ρ] [DriveService α] {request : Request} {stream : ρ} {a b : α} {x y : Exchange α}

theorem nil (rapid : Bool) (request : Request) (stream : ρ) (a : α) :
    Negotiation rapid request stream a [] a :=
  ⟨rfl, .none, fun _ h => (nomatch h), fun _ h => absurd rfl h⟩

theorem full (hc : Exchange.Chain request a [x] b) (hx : x.Shows request stream) :
    Negotiation false request stream a [x] b :=
  ⟨hc, .full rfl hx.1, List.forall_mem_singleton.mpr fun _ => hx, fun h => nomatch h⟩

theorem sample (hc : Exchange.Chain request a [x] b) (hx : x.isFull = false)
    (hs : Integer.Short request.size) : Negotiation true request stream a [x] b :=
  ⟨hc, .sample rfl hx,
    List.forall_mem_singleton.mpr fun h => absurd (hx.symm.trans h) Bool.false_ne_true,
    fun _ _ => hs⟩

theorem both {challenge : Challenge} {previous : Answer}
    (hx : Negotiation true request stream a [x] x.after.state) (hf : x.isFull = false)
    (hv : Verdict.of x.result = .ok (.challenged challenge))
    (hp : Answer.ofJson challenge.payload = .ok previous)
    (hc : Exchange.Chain request x.after.state [y] b) (hy : y.Shows request stream) :
    Negotiation true request stream a [x, y] b :=
  ⟨⟨hx.chain.1, hx.chain.2.1, hc⟩, .both rfl hf hv hp hy.1,
    List.forall_mem_cons.mpr ⟨hx.shows x List.mem_cons_self,
      List.forall_mem_singleton.mpr fun _ => hy⟩, fun h _ => hx.told h (List.cons_ne_nil x [])⟩

end Negotiation

namespace Negotiator

section Steps

variable (request : Request) (s : Logged (Scene ρ α))

/-- A rapid upload needs nothing more. -/
theorem confirm_ends (stage : Stage) (answer : Answer) (E : Fault → Logged (Scene ρ α) → Prop) :
    Ends (confirm request stage answer) s
      (fun out t => out = ⟨stage, answer, answer.session, [], none⟩ ∧
        t.state.service = s.state.service) E := by
  unfold confirm enter
  rw [ends_bind, ends_change, ends_bind, ends_tell, ends_pure]
  exact ⟨rfl, rfl⟩

/-- Bytes are required into the session of the answer, where it has one. -/
theorem requireTransfer_ends (answer : Answer) (supply : Supply) :
    Ends (requireTransfer answer supply) s
      (fun out t => Outcome.into answer supply = .ok out ∧ t.state = s.state)
      (fun e t => Outcome.into answer supply = .error e ∧ t.state = s.state) := by
  unfold requireTransfer Outcome.into
  cases answer.session with
  | none => exact ends_fail.mpr ⟨rfl, rfl⟩
  | some session =>
    dsimp only
    rw [ends_bind, ends_ofExcept]
    refine ⟨fun told ht => ?_, fun e he => ⟨by rw [he]; rfl, rfl⟩⟩
    rw [ends_bind, ends_tell, ends_pure]
    exact ⟨by rw [ht]; rfl, rfl⟩

/-- Bytes are required from a spill that stores them: it stands at their start then. -/
theorem requireSpill_ends (answer : Answer) {content : ByteArray}
    {limits : FileLimits} (hs : s.state.spill.Stores limits content) :
    Ends (do
        enter .transferRequired
        Act.within Scene.theSpill (Act.quiet Spill.rewind)
        requireTransfer answer .spill) s
      (fun out t => Outcome.into answer .spill = .ok out ∧
        t.state.service = s.state.service ∧ t.state.spill.Stands limits content content)
      (fun e t => Outcome.into answer .spill = .error e ∧ t.state.service = s.state.service) := by
  unfold enter
  rw [ends_bind, ends_change, ends_bind, ends_part, ends_quiet]
  refine (Spill.rewind_ends hs _).mono ?_ fun _ _ h => h
  intro _ spill hstands
  refine (requireTransfer_ends _ answer .spill).mono ?_ ?_
  · rintro out ⟨t, log⟩ ⟨hout, rfl⟩
    exact ⟨hout, rfl, hstands⟩
  · rintro e ⟨t, log⟩ ⟨he, rfl⟩
    exact ⟨he, rfl⟩

/-- What the verdict on the full hash comes to is carried out; bytes that must be sent stand in the
spill. -/
theorem conclude_ends (previous : Option Answer) (verdict : Verdict) {taken : ByteArray}
    {limits : FileLimits} (hs : s.state.spill.Stores limits taken) :
    Ends (do
        let answer ← match verdict with
          | .accepted answer =>
            if answer.rapid then return ← confirm request .rapidConfirmedByProof answer
            pure answer
          | .challenged challenge =>
            Act.tell .info .negotiator ["Full hash not accepted for ", request.name,
              ", transfer required"]
            Act.ofExcept (Answer.ofJson challenge.payload)
        enter .transferRequired
        let answer := withSession answer previous
        Act.within Scene.theSpill (Act.quiet Spill.rewind)
        requireTransfer answer .spill) s
      (fun out t => Outcome.ofProof previous verdict = .ok out ∧
        t.state.service = s.state.service ∧
        ∀ supply ∈ out.supply, supply = .spill ∧ t.state.spill.Stands limits taken taken)
      (fun e t => Outcome.ofProof previous verdict = .error e ∧
        t.state.service = s.state.service) := by
  have required : ∀ {answer out} {t : Scene ρ α},
      Outcome.into answer .spill = .ok out → t.spill.Stands limits taken taken →
      ∀ supply ∈ out.supply, supply = .spill ∧ t.spill.Stands limits taken taken := by
    intro answer out t ho ht supply hsup
    obtain ⟨session, -, rfl⟩ := Outcome.into_ok ho
    cases hsup
    exact ⟨rfl, ht⟩
  cases verdict with
  | accepted answer =>
    dsimp only
    split
    · rename_i hrapid
      refine (confirm_ends request _ _ answer _).mono ?_ fun _ _ h => h
      rintro out t ⟨rfl, ht⟩
      exact ⟨if_pos hrapid, ht, fun _ h => nomatch h⟩
    · rename_i hrapid
      rw [pure_bind]
      have hinto : Outcome.ofProof previous (.accepted answer) = _ := if_neg hrapid
      refine (requireSpill_ends _ _ hs).mono ?_ ?_
      · rintro out t ⟨ho, hservice, ht⟩
        exact ⟨hinto.trans ho, hservice, required ho ht⟩
      · rintro e t ⟨he, hservice⟩
        exact ⟨hinto.trans he, hservice⟩
  | challenged challenge =>
    dsimp only
    rw [ends_bind, ends_tell, ends_bind, ends_ofExcept]
    constructor
    · intro answer ha
      have hinto : Outcome.ofProof previous (.challenged challenge) =
          Outcome.into (withSession answer previous) .spill := by
        rw [Outcome.ofProof, ha]
        rfl
      refine (requireSpill_ends _ _ (by exact hs)).mono ?_ ?_
      · rintro out t ⟨ho, hservice, ht⟩
        exact ⟨hinto.trans ho, hservice, required ho ht⟩
      · rintro e t ⟨he, hservice⟩
        exact ⟨hinto.trans he, hservice⟩
    · intro e he
      exact ⟨by rw [Outcome.ofProof, he]; rfl, rfl⟩

/-- What the verdict on a sample comes to is carried out, unless the full hash is asked for; bytes
that must be sent come from the stream as it stands. -/
theorem answered_ends (answer : Answer) :
    Ends (if answer.rapid then confirm request .rapidConfirmed answer
        else do
          enter .transferRequired
          requireTransfer answer .replay) s
      (fun out t => Outcome.ofSample answer = .ok out ∧ t.state.service = s.state.service ∧
        ∀ supply ∈ out.supply, supply = .replay ∧ t.state.stream = s.state.stream)
      (fun e t => Outcome.ofSample answer = .error e ∧ t.state.service = s.state.service) := by
  unfold Outcome.ofSample
  split
  · refine (confirm_ends request _ _ answer _).mono ?_ fun _ _ h => h
    rintro out t ⟨rfl, hservice⟩
    exact ⟨rfl, hservice, fun _ h => nomatch h⟩
  · unfold enter
    rw [ends_bind, ends_change]
    refine (requireTransfer_ends _ answer .replay).mono ?_ ?_
    · rintro out ⟨t, log⟩ ⟨ho, rfl⟩
      obtain ⟨session, -, rfl⟩ := Outcome.into_ok ho
      refine ⟨ho, rfl, fun supply h => ?_⟩
      cases h
      exact ⟨rfl, rfl⟩
    · rintro e ⟨t, log⟩ ⟨he, rfl⟩
      exact ⟨he, rfl⟩

end Steps

/-! ### Requests -/

section Requests

variable [DriveService α] (request : Request) (s : Logged (Scene ρ α))

/-- From one scene to another one a request was made, with the verdict on it. -/
structure Submitted (evidence : Evidence) (t : Scene ρ α) (verdict : Except Fault Verdict)
    (x : Exchange α) : Prop where
  evidence_eq : x.evidence = evidence
  before_eq : x.before = ⟨s.state.service, s.log⟩
  made : x.Made request
  verdict_eq : Verdict.of x.result = verdict
  after_eq : t = { s.state with service := x.after.state }

variable {request s} in
theorem Submitted.service_eq {evidence : Evidence} {t : Scene ρ α} {verdict : Except Fault Verdict}
    {x : Exchange α} (h : Submitted request s evidence t verdict x) :
    x.before.state = s.state.service :=
  congrArg Logged.state h.before_eq

/-- Sending a phase is one request, and gives the verdict in how it ended. -/
theorem submit_ends (evidence : Evidence) :
    Ends (submit request evidence) s
      (fun v t => ∃ x, Submitted request s evidence t.state (.ok v) x ∧ t.log = x.after.log)
      (fun e t => ∃ x, Submitted request s evidence t.state (.error e) x) := by
  unfold submit
  rw [ends_bind, ends_outcome, ends_part]
  cases hc : DriveService.createUpload (request.body (some evidence))
      ⟨s.state.service, s.log⟩ with
  | ok j after =>
    refine ends_ok hc ?_
    have submitted : ∀ {log x}, (Answer.ofJson j).map Verdict.accepted = x →
        Submitted request s evidence
          (Logged.mk (Scene.theService.set after.state s.state) log).state x
          ⟨⟨evidence, .ok j⟩, ⟨s.state.service, s.log⟩, after⟩ := fun hx =>
      ⟨rfl, rfl, by rw [Exchange.Made, Act.outcome, hc], hx, rfl⟩
    rw [ends_bind, ends_ofExcept]
    refine ⟨fun a ha => ends_pure.mpr ⟨_, submitted ?_, rfl⟩, fun e he => ⟨_, submitted ?_⟩⟩
    · rw [ha, Except.map]
    · rw [he, Except.map]
  | error e after =>
    refine ends_error hc ?_
    have submitted : ∀ {log x}, Verdict.of (.error e) = x →
        Submitted request s evidence
          (Logged.mk (Scene.theService.set after.state s.state) log).state x
          ⟨⟨evidence, .error e⟩, ⟨s.state.service, s.log⟩, after⟩ := fun hx =>
      ⟨rfl, rfl, by rw [Exchange.Made, Act.outcome, hc], hx, rfl⟩
    cases e with
    | rejected r =>
      rw [ends_bind, ends_ofExcept]
      refine ⟨fun b hb => ?_, fun e he => ⟨_, submitted (by rw [Verdict.of, he])⟩⟩
      cases b with
      | true => exact ends_pure.mpr ⟨_, submitted (by rw [Verdict.of, hb]), rfl⟩
      | false =>
        rw [if_neg Bool.false_ne_true, ends_bind, ends_tell, ends_fail]
        exact ⟨_, submitted (by rw [Verdict.of, hb])⟩
    | _ => exact ends_fail.mpr ⟨_, submitted rfl⟩

/-- The fault of a proof that cannot be given: the declared size has no text and has to be told, as
it is not that of the content, or no window can be shown. -/
def Unprovable (reach : Nat) (content : ByteArray) (token : String) (size : Int) (e : Fault) :
    Prop :=
  (content.size : Int) ≠ size ∧ ¬Integer.Short size ∧ e = .undefined .longInteger ∨
    Possession.Unprovable reach token size e

/-- A size that can be told of and a window within reach can be proved. -/
theorem not_unprovable {reach : Nat} {content : ByteArray} {token : String} {size : Int}
    (hp : Possession.Provable reach token size) (hs : Integer.Short size) (e : Fault) :
    ¬Unprovable reach content token size e := by
  rintro (⟨-, hlong, -⟩ | h)
  · exact hlong hs
  · exact hp.not_unprovable e h

/-- The proof cannot be given for a reason of its own: not where a temp file can be made and the
stream delivers. -/
def Unproved [Reader ρ] (stream : ρ) (spill : Spill) (a : α) (e : Fault) : Prop :=
  spill.Usable → ∀ {limit content}, Delivers limit stream content → Spill.copySize ≤ limit →
    Unprovable spill.disk.limits.reach content (DriveService.heldToken a) request.size e

/-- From one state of the service to another one the full hash of the stream was shown once, and
the server's verdict comes to `x`. -/
def Shown [Reader ρ] (stream : ρ) (previous : Option Answer) (a b : α)
    (out : Except Fault Outcome) : Prop :=
  ∃ x : Exchange α, Exchange.Chain request a [x] b ∧ x.Shows request stream ∧
    (Verdict.of x.result >>= Outcome.ofProof previous) = out

variable [Reader ρ]

/-- **The second phase.**  The full hash and the proof are shown once, unless the stream or the
spill fails before; bytes that must be sent stand in the spill. -/
theorem prove_ends (previous : Option Answer) (hs : s.state.spill.handle = none) :
    Ends (prove request previous) s
      (fun out t =>
        Shown request s.state.stream previous s.state.service t.state.service (.ok out) ∧
        ∀ supply ∈ out.supply, supply = .spill ∧
          ∀ {limit content}, Delivers limit s.state.stream content →
            Delivers s.state.spill.disk.limits.largest t.state.spill content)
      (fun e t =>
        t.state.service = s.state.service ∧
          Unproved request s.state.stream s.state.spill s.state.service e ∨
        Shown request s.state.stream previous s.state.service t.state.service (.error e)) := by
  unfold prove
  rw [ends_bind, ends_part]
  refine (Spill.absorb_ends s.state.stream hs s.log).mono ?_ fun e t h =>
    .inl ⟨rfl, fun hu _ _ hd hl => absurd (h hu hd) (Nat.not_lt.mpr hl)⟩
  rintro hasher ⟨⟨r, spill⟩, log⟩ ⟨taken, rfl, hstores, hall⟩
  dsimp only at hstores ⊢
  refine ends_tell_if (fun log => ?_) fun hne e he => .inl ⟨rfl, fun _ _ _ hd _ => .inl ?_⟩
  rotate_left
  · rw [Hasher.length_update_new, hall hd] at hne
    exact ⟨hne, Integer.text_error he⟩
  -- the proof moves within the spill, and what is stored stays as it is
  rw [ends_bind, ends_look, ends_bind, ends_part, ends_quiet]
  refine (Possession.prove_ends hstores _ _).mono ?_ fun e spill he =>
    .inl ⟨rfl, fun _ _ _ _ _ => .inr he⟩
  rintro window spill ⟨hstores, size, hsize, hwindow⟩
  rw [Hasher.hex_update_new, ends_bind, ends_tell, ends_bind]
  have hfull : ∀ {content}, taken = content →
      Evidence.ofContent? content (DriveService.heldToken s.state.service) size =
        some (.fullHash (sha1.hex taken) window.encoded Possession.version "sha1") := by
    rintro _ rfl
    exact congrArg (Option.map _) hwindow
  have shows : ∀ {x : Exchange α}, x.before.state = s.state.service →
      x.evidence = .fullHash (sha1.hex taken) window.encoded Possession.version "sha1" →
      x.Shows request s.state.stream := by
    intro x hx he
    refine ⟨by rw [Attempt.isFull, he], fun hd => ⟨size, hsize, ?_⟩⟩
    rw [hx, he]
    exact hfull (hall hd)
  refine (submit_ends request ⟨{ s.state with stream := r, spill := spill }, _⟩ _).mono ?_ ?_
  · rintro verdict ⟨t, log⟩ ⟨x, hx, -⟩
    obtain rfl := hx.after_eq
    refine (conclude_ends request _ previous verdict (by exact hstores)).mono ?_ ?_
    · rintro out t ⟨ho, hservice, hsup⟩
      refine ⟨⟨x, ⟨hx.service_eq, hx.made, hservice⟩, shows hx.service_eq hx.evidence_eq, ?_⟩, ?_⟩
      · rw [hx.verdict_eq]
        exact ho
      · intro supply h
        obtain ⟨rfl, ht⟩ := hsup supply h
        exact ⟨rfl, fun hd => Spill.delivers_of_stands (hall hd ▸ ht)⟩
    · rintro e t ⟨he, hservice⟩
      refine .inr ⟨x, ⟨hx.service_eq, hx.made, hservice⟩, shows hx.service_eq hx.evidence_eq, ?_⟩
      rw [hx.verdict_eq]
      exact he
  · rintro e ⟨t, log⟩ ⟨x, hx⟩
    obtain rfl := hx.after_eq
    refine .inr ⟨x, ⟨hx.service_eq, hx.made, rfl⟩, shows hx.service_eq hx.evidence_eq, ?_⟩
    rw [hx.verdict_eq]
    rfl

/-- A sample loses nothing: in front of its stream it delivers what the stream did. -/
theorem sample_ends (x : Sampler) (r : ρ) (log : Array Log.Line) :
    Ends x.sample ⟨r, log⟩
      (fun sample t => ∀ {limit content}, Delivers limit r content →
        Delivers limit (sample.replay t.state) content)
      (fun _ _ => ∀ {limit content}, Delivers limit r content → limit < x.budget) := by
  unfold Sampler.sample
  rw [ends_bind, ends_quiet]
  refine (ends_run (Reader.readUpTo x.budget) r).mono ?_ fun e t hread limit content h =>
    ends_of_error (readUpTo_ends h) hread
  intro bytes r' hread
  rw [ends_bind, ends_tell, ends_pure]
  intro limit content h
  obtain ⟨rfl, hr⟩ := ends_of_ok (readUpTo_ends h) hread
  have := delivers_replay (r := ⟨content.window 0 x.budget, 0, r'⟩) hr
  rwa [ByteArray.since_zero, ByteArray.window_append_since] at this

/-- The bytes to be sent are at hand from the start on. -/
def Supplies (t : Scene ρ α) (limits : FileLimits) (limit : Nat) (content : ByteArray) :
    Supply → Prop
  | .replay => Delivers limit t.stream content
  | .spill => Delivers limits.largest t.spill content

/-- What a negotiation of a stream ends in by its exchanges: what they come to, or a fault where
they do not settle it.  Then a sample is due, and the declared size cannot be told of, or the full
hash is due, and for a stream that delivers, it is the proof that cannot be given. -/
inductive Ending (n : Negotiator) (stream : ρ) (spill : Spill) (a : α) :
    List (Exchange α) → α → Except Fault Outcome → Prop where
  | settled {xs : List (Exchange α)} {b : α} {x : Except Fault Outcome}
    (hn : Negotiation n.rapid request stream a xs b)
    (hx : settle n.rapid ((xs.map Exchange.toAttempt).map Attempt.result) = some x) :
    Ending n stream spill a xs b x
  | untold (h : n.rapid = true) (hs : ¬Integer.Short request.size) :
    Ending n stream spill a [] a (.error (.undefined .longInteger))
  | unsettled {xs : List (Exchange α)} {b : α} {e : Fault}
    (hn : Negotiation n.rapid request stream a xs b)
    (hx : settle n.rapid ((xs.map Exchange.toAttempt).map Attempt.result) = none)
    (he : spill.Usable → ∀ {limit content}, Delivers limit stream content →
      n.sampler.budget ≤ limit → Spill.copySize ≤ limit → xs.isEmpty = !n.rapid ∧
        Unprovable spill.disk.limits.reach content (DriveService.heldToken b) request.size e) :
    Ending n stream spill a xs b (.error e)

variable {request} {r : ρ} {a b : α} {out : Except Fault Outcome} {spill : Spill}

theorem Ending.negotiation {n : Negotiator} {xs : List (Exchange α)}
    (h : n.Ending request r spill a xs b out) : Negotiation n.rapid request r a xs b := by
  cases h with
  | settled hn | unsettled hn => exact hn
  | untold => exact .nil ..

/-- An outcome is what the exchanges come to. -/
theorem Ending.settles {n : Negotiator} {xs : List (Exchange α)} {o : Outcome}
    (h : n.Ending request r spill a xs b (.ok o)) : Negotiation n.rapid request r a xs b ∧
      settle n.rapid ((xs.map Exchange.toAttempt).map Attempt.result) = some (.ok o) := by
  cases h with
  | settled hn hx => exact ⟨hn, hx⟩

/-- A fault is what the exchanges come to, where they settle the negotiation. -/
theorem Ending.failed {n : Negotiator} {xs : List (Exchange α)} {e : Fault}
    (h : n.Ending request r spill a xs b (.error e)) :
    ∀ x, settle n.rapid ((xs.map Exchange.toAttempt).map Attempt.result) = some x →
      x = .error e := by
  cases h with
  | settled hn hx => exact fun x h => Option.some.inj (h.symm.trans hx)
  | untold h =>
    intro x hx
    rw [h] at hx
    cases hx
  | unsettled hn hx => exact fun x h => by rw [hx] at h; cases h

/-- The full hash alone settles a negotiation without samples. -/
theorem Shown.alone (h : Shown request (Replay.bare r) none a b out) (sampler : Sampler) :
    ∃ xs, Ending request ⟨false, sampler⟩ r spill a xs b out := by
  obtain ⟨x, hc, hx, rfl⟩ := h
  exact ⟨[x], .settled (.full hc (hx.mono delivers_bare)) rfl⟩

/-- The full hash settles a negotiation after a challenge. -/
theorem Shown.challenged {x : Exchange α} {challenge : Challenge} {previous : Answer}
    {stream : Replay ρ} (h : Shown request stream (some previous) x.after.state b out)
    (hd : ∀ {limit content}, Delivers limit r content → Delivers limit stream content)
    (hx : Negotiation true request r a [x] x.after.state) (hf : x.isFull = false)
    (hv : Verdict.of x.result = .ok (.challenged challenge))
    (hp : Answer.ofJson challenge.payload = .ok previous) (sampler : Sampler) :
    ∃ xs, Ending request ⟨true, sampler⟩ r spill a xs b out := by
  obtain ⟨y, hc, hy, rfl⟩ := h
  exact ⟨[x, y], .settled (hx.both hf hv hp hc (hy.mono hd)) (settle_both hv hp)⟩

/-- After a challenge to a sample the full hash is shown, unless the challenge cannot be read. -/
theorem challenged_ends {s : Logged (Scene ρ α)} {x : Exchange α} {challenge : Challenge}
    (hs : s.state.spill.handle = none) (hservice : s.state.service = x.after.state)
    (hd : ∀ {limit content}, Delivers limit r content → Delivers limit s.state.stream content)
    (hx : Negotiation true request r a [x] x.after.state) (hf : x.isFull = false)
    (hv : Verdict.of x.result = .ok (.challenged challenge)) (sampler : Sampler) :
    Ends (do
        Act.tell .info .negotiator ["Pre-hash matched for ", request.name,
          ", proving full possession"]
        enter .hashChallengeIssued
        let previous ← Act.ofExcept (Answer.ofJson challenge.payload)
        prove request (some previous)) s
      (fun out t =>
        (∃ xs, Ending request ⟨true, sampler⟩ r s.state.spill a xs t.state.service (.ok out)) ∧
        ∀ supply ∈ out.supply, ∀ {limit content}, Delivers limit r content →
          Supplies t.state s.state.spill.disk.limits limit content supply)
      (fun e t =>
        ∃ xs, Ending request ⟨true, sampler⟩ r s.state.spill a xs t.state.service (.error e)) := by
  unfold enter
  rw [ends_bind, ends_tell, ends_bind, ends_change, ends_bind, ends_ofExcept]
  refine ⟨fun previous hp => ?_, fun e he => ⟨[x], ?_⟩⟩
  · refine (prove_ends request _ (some previous) (by exact hs)).mono ?_ ?_
    · rintro out t ⟨hshown, hsup⟩
      rw [hservice] at hshown
      refine ⟨hshown.challenged hd hx hf hv hp sampler, fun supply h limit content hr => ?_⟩
      obtain ⟨rfl, hspill⟩ := hsup supply h
      exact hspill (hd hr)
    · rintro e ⟨⟨_, service, _, _⟩, log⟩ (⟨rfl, he⟩ | hshown)
      · rw [hservice] at he ⊢
        exact ⟨[x], .unsettled hx (settle_challenged hv hp)
          fun hu _ _ hr _ hl => ⟨rfl, he hu (hd hr) hl⟩⟩
      · rw [hservice] at hshown
        exact hshown.challenged hd hx hf hv hp sampler
  · rw [hservice]
    exact .settled hx (settle_unreadable hv he)

variable (request)

/-- **Negotiating.**  The attempts of a handshake are made, and what they come to is the outcome;
where they do not settle it, the negotiation fails.  Bytes that must be sent are at hand. -/
theorem negotiate_ends (n : Negotiator) (r : ρ) (hs : s.state.spill.handle = none) :
    Ends (n.negotiate request r) s
      (fun out t =>
        (∃ xs, n.Ending request r s.state.spill s.state.service xs t.state.service (.ok out)) ∧
        ∀ supply ∈ out.supply, ∀ {limit content}, Delivers limit r content →
          Supplies t.state s.state.spill.disk.limits limit content supply)
      (fun e t =>
        ∃ xs, n.Ending request r s.state.spill s.state.service xs t.state.service (.error e)) := by
  obtain ⟨rapid, sampler⟩ := n
  unfold negotiate
  rw [ends_bind, ends_change]
  cases rapid with
  | false =>
    refine (prove_ends request ⟨{ s.state with stream := .bare r, stage := _ }, s.log⟩ none
      hs).mono ?_ ?_
    · rintro out t ⟨hshown, hsup⟩
      refine ⟨hshown.alone sampler, fun supply h limit content hd => ?_⟩
      obtain ⟨rfl, hspill⟩ := hsup supply h
      exact hspill (delivers_bare hd)
    · rintro e ⟨⟨_, service, _, _⟩, log⟩ (⟨rfl, he⟩ | hshown)
      · exact ⟨[], .unsettled (.nil ..) rfl fun hu _ _ hd _ hl =>
          ⟨rfl, he hu (delivers_bare hd) hl⟩⟩
      · exact hshown.alone sampler
  | true =>
    dsimp only
    rw [if_pos rfl, ends_bind, ends_part]
    refine (sample_ends sampler r s.log).mono ?_ fun e t he => ⟨[], .unsettled (.nil ..) rfl
      fun _ _ _ hd hb _ => absurd (he hd) (Nat.not_lt.mpr hb)⟩
    rintro sample ⟨r', log⟩ hsample
    -- the sample goes back in front of its stream before anything is sent
    dsimp only at hsample
    rw [ends_bind, ends_change, ends_bind, ends_ofExcept]
    refine ⟨fun declared hdeclared => ?_, fun e he => ?_⟩
    rotate_left
    · obtain ⟨hlong, rfl⟩ := Integer.text_error he
      exact ⟨[], .untold rfl hlong⟩
    have hshort := Integer.short_of_text hdeclared
    rw [ends_bind, ends_tell, ends_bind]
    refine (submit_ends request ⟨{ s.state with stream := sample.replay r', stage := _ }, _⟩
      _).mono ?_ ?_
    · rintro verdict ⟨t, log⟩ ⟨x, hx, -⟩
      obtain rfl := hx.after_eq
      have hf : x.isFull = false := by rw [Attempt.isFull, hx.evidence_eq]
      have sampled : Negotiation true request r s.state.service [x] x.after.state :=
        .sample ⟨hx.service_eq, hx.made, rfl⟩ hf hshort
      cases verdict with
      | accepted answer =>
        have hsettle := settle_accepted hx.verdict_eq
        refine (answered_ends request _ answer).mono ?_ ?_
        · rintro out ⟨⟨_, service, _, _⟩, log⟩ ⟨ho, rfl, hsup⟩
          refine ⟨⟨[x], .settled sampled (hsettle.trans (congrArg some ho))⟩, ?_⟩
          intro supply h limit content hd
          obtain ⟨rfl, rfl⟩ := hsup supply h
          exact hsample hd
        · rintro e ⟨⟨_, service, _, _⟩, log⟩ ⟨he, rfl⟩
          exact ⟨[x], .settled sampled (hsettle.trans (congrArg some he))⟩
      | challenged challenge =>
        exact challenged_ends (by exact hs) rfl hsample sampled hf hx.verdict_eq sampler
    · rintro e ⟨t, log⟩ ⟨x, hx⟩
      obtain rfl := hx.after_eq
      have hf : x.isFull = false := by rw [Attempt.isFull, hx.evidence_eq]
      exact ⟨[x], .settled (.sample ⟨hx.service_eq, hx.made, rfl⟩ hf hshort)
        (settle_error hx.verdict_eq)⟩

end Requests

end Negotiator

/-! ### Watched exchanges -/

namespace Exchange

variable [DriveService α] {request : Request}

/-- A request of a watched service is one more call. -/
theorem Made.events {x : Exchange (Watched α)} (h : x.Made request) :
    x.after.state.events = x.before.state.events ++ [x.event request] := by
  have hnote : Ends (DriveService.createUpload (request.body (some x.evidence))).outcome x.before
      (fun result t => t.state.events = x.before.state.events ++
        [.create (request.body (some x.evidence)) result]) fun _ _ => True :=
    ends_outcome.mpr (Watched.ends_note (fun _ _ _ => rfl) fun _ _ _ => rfl)
  have hevents := ends_of_ok hnote h
  exact hevents

/-- A chain of requests adds their calls. -/
theorem Chain.events {a b : Watched α} {xs : List (Exchange (Watched α))}
    (h : Chain request a xs b) :
    b.events = a.events ++ (xs.map toAttempt).map (Attempt.event request) := by
  induction xs generalizing a with
  | nil =>
    obtain rfl : b = a := h
    exact (List.append_nil _).symm
  | cons x xs ih =>
    obtain ⟨rfl, hx, h⟩ := h
    rw [ih h, hx.events, List.append_assoc]
    rfl

end Exchange

end RapidUpload
