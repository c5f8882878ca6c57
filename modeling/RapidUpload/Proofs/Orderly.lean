import RapidUpload.Proofs.Conduct

/-!
# The order of calls

The calls of every upload come in order, and nothing is committed too early.

* `Calls.Orderly`: what holds of the calls of an upload and of what it ends in.
* `Coordinator.watch_orderly`: the calls of every upload are orderly.
-/

namespace RapidUpload

variable {ρ α : Type}

/-! ### Calls that fail -/

namespace Event

/-- The fault a call ended in. -/
def raised : Event → Option Fault
  | .create _ (.error e) | .put _ _ (.error e) | .told _ (.error e) | .complete _ _ _ (.error e) =>
    some e
  | _ => none

/-- The server asks for the full hash. -/
def IsChallenge (event : Event) : Prop :=
  ∃ body r, event = .create body (.error (.rejected r)) ∧ r.code = .str ErrorCode.preHashMatched

/-- The call failed, and the upload ended for it in the same fault. The exception is a request that
the server refused by a code that is an array or an object: no table has such a code, looking it up
is a fault, and the upload ends in that one. -/
def Stops (event : Event) (e : Fault) (x : Except Fault Report) : Prop :=
  x = .error e ∨ ∃ body r e', event = .create body (.error (.rejected r)) ∧
    ErrorCode.isChallenge r.code = .error e' ∧ x = .error e'

end Event

/-- A challenge is a rejection by one code. -/
theorem ErrorCode.isChallenge_ok {code : Json} (h : isChallenge code = .ok true) :
    code = .str preHashMatched := by
  unfold isChallenge at h
  split at h
  · rename_i s
    rw [eq_of_beq (Except.ok.inj h)]
  · cases h
  · cases h
  · cases h

theorem Verdict.of_challenged {x : Except Fault Json} {challenge : Challenge}
    (h : Verdict.of x = .ok (.challenged challenge)) :
    ∃ r, x = .error (.rejected r) ∧ r.code = .str ErrorCode.preHashMatched ∧
      challenge = ⟨r.code, r.payload⟩ := by
  unfold Verdict.of at h
  split at h
  · rename_i j
    cases ha : Answer.ofJson j <;> rw [ha] at h <;> cases h
  · rename_i r
    split at h
    · cases h
      exact ⟨r, rfl, ErrorCode.isChallenge_ok ‹_›, rfl⟩
    · cases h
    · cases h
  · cases h

/-- A request that failed has a verdict only where the server asks for the full hash. -/
theorem Verdict.of_error {e : Fault} {v : Verdict} (h : Verdict.of (.error e) = .ok v) :
    ∃ r, e = .rejected r ∧ r.code = .str ErrorCode.preHashMatched := by
  unfold Verdict.of at h
  split at h
  · rename_i heq
    cases heq
  · rename_i r heq
    cases heq
    split at h
    · exact ⟨r, rfl, ErrorCode.isChallenge_ok ‹_›⟩
    · cases h
    · cases h
  · cases h

/-- Without a verdict the fault stands, unless the code cannot be looked up. -/
theorem Verdict.of_error_error {e e' : Fault} (h : Verdict.of (.error e) = .error e') :
    e' = e ∨ ∃ r, e = .rejected r ∧ ErrorCode.isChallenge r.code = .error e' := by
  unfold Verdict.of at h
  split at h
  · rename_i heq
    cases heq
  · rename_i r heq
    cases heq
    split at h
    · cases h
    · exact .inl (Except.error.inj h).symm
    · rename_i he
      cases h
      exact .inr ⟨r, rfl, he⟩
  · rename_i heq
    cases heq
    exact .inl (Except.error.inj h).symm

/-! ### What a request shows -/

namespace Create

/-- The body has a field of a name. -/
def has (x : Create) (key : String) : Bool := (x.body.get? key).isSome

/-- The body has the hash of a sample, and neither the full hash nor a proof. -/
def ShowsSample (x : Create) : Prop :=
  x.has "pre_hash" = true ∧ x.has "content_hash" = false ∧ x.has "proof_code" = false

/-- The body has the full hash and a proof, and no hash of a sample. -/
def ShowsProof (x : Create) : Prop :=
  x.has "content_hash" = true ∧ x.has "proof_code" = true ∧ x.has "pre_hash" = false

end Create

theorem Attempt.showsSample (request : Request) {a : Attempt} (h : a.isFull = false) :
    (a.create request).ShowsSample := by
  obtain ⟨evidence, result⟩ := a
  cases evidence with
  | preHash hash => exact ⟨rfl, rfl, rfl⟩
  | fullHash => cases h

theorem Attempt.showsProof (request : Request) {a : Attempt} (h : a.isFull = true) :
    (a.create request).ShowsProof := by
  obtain ⟨evidence, result⟩ := a
  cases evidence with
  | preHash => cases h
  | fullHash hash proof version hashName => exact ⟨rfl, rfl, rfl⟩

namespace Handshake

variable {rapid : Bool} {attempts : List Attempt}

theorem length_le (h : Handshake rapid attempts) : attempts.length ≤ 2 := by
  cases h <;> simp

/-- Only the first attempt shows a sample, and only where samples are tried. -/
theorem isFull_eq (h : Handshake rapid attempts) {i : Nat} {a : Attempt}
    (ha : attempts[i]? = some a) : a.isFull = !(rapid && i == 0) := by
  cases h with
  | none => cases ha
  | sample h hf | full h hf =>
    subst h
    cases i with
    | zero => cases ha; exact hf
    | succ i => cases ha
  | both h hf _ _ hb =>
    subst h
    match i with
    | 0 => cases ha; exact hf
    | 1 => cases ha; exact hb
    | i + 2 => cases ha

/-- A request without a verdict is the last one, and settles the negotiation. -/
theorem verdicts (h : Handshake rapid attempts) :
    (∀ a ∈ attempts, ∃ v, Verdict.of a.result = .ok v) ∨
      ∃ init last e, attempts = init ++ [last] ∧ (∀ a ∈ init, ∃ v, Verdict.of a.result = .ok v) ∧
        Verdict.of last.result = .error e ∧
        settle rapid (attempts.map Attempt.result) = some (.error e) := by
  cases h with
  | none => exact .inl fun a ha => nomatch ha
  | @sample a h hf =>
    subst h
    cases hv : Verdict.of a.result with
    | ok v => exact .inl fun b hb => ⟨v, List.mem_singleton.mp hb ▸ hv⟩
    | error e => exact .inr ⟨[], a, e, rfl, fun b hb => (nomatch hb), hv, settle_error hv⟩
  | @full a h hf =>
    subst h
    cases hv : Verdict.of a.result with
    | ok v => exact .inl fun b hb => ⟨v, List.mem_singleton.mp hb ▸ hv⟩
    | error e =>
      refine .inr ⟨[], a, e, rfl, fun b hb => (nomatch hb), hv, ?_⟩
      exact congrArg (fun x => some (x >>= Outcome.ofProof Option.none)) hv
  | @both a b challenge previous h hf hc hp hb =>
    subst h
    cases hv : Verdict.of b.result with
    | ok v =>
      exact .inl (List.forall_mem_cons.mpr ⟨⟨_, hc⟩,
        fun b' hb' => ⟨v, List.mem_singleton.mp hb' ▸ hv⟩⟩)
    | error e =>
      refine .inr ⟨[a], b, e, rfl, fun b' hb' => ⟨_, List.mem_singleton.mp hb' ▸ hc⟩, hv, ?_⟩
      exact (settle_both hc hp).trans (congrArg (fun x => some (x >>= _)) hv)

/-- An answer taken as rapid makes the outcome a rapid one. -/
theorem isRapid (h : Handshake rapid attempts) {out : Outcome}
    (hx : settle rapid (attempts.map Attempt.result) = some (.ok out)) {a : Attempt}
    (ha : a ∈ attempts) {answer : Answer} (hv : Verdict.of a.result = .ok (.accepted answer))
    (hr : answer.rapid = true) : out.stage.isRapid = true := by
  cases h with
  | none => cases ha
  | sample h =>
    subst h
    cases List.mem_singleton.mp ha
    rw [List.map_singleton, settle_accepted hv, Outcome.ofSample, if_pos hr] at hx
    cases hx
    rfl
  | full h =>
    subst h
    cases List.mem_singleton.mp ha
    have hp : some (Verdict.of a.result >>= Outcome.ofProof Option.none) = some (.ok out) := hx
    rw [hv] at hp
    have := (if_pos hr).symm.trans (Option.some.inj hp)
    cases this
    rfl
  | both h _ hc hp =>
    subst h
    rcases List.mem_cons.mp ha with rfl | ha
    · rw [hc] at hv
      cases hv
    · cases List.mem_singleton.mp ha
      have hs := (settle_both hc hp).symm.trans hx
      rw [hv] at hs
      have := (if_pos hr).symm.trans (Option.some.inj hs)
      cases this
      rfl

end Handshake

/-! ### The last call -/

/-- Only the last of some calls may have failed, where the others are passed. -/
theorem Event.last_of {init : List Event} {final : Option Event}
    {x : Except Fault Report} (hi : ∀ event ∈ init, ∀ e, event.raised = some e → event.IsChallenge)
    (hf : ∀ event ∈ final, ∀ e, event.raised = some e → event.IsChallenge ∨ event.Stops e x)
    {before after : List Event} {event : Event} {e : Fault}
    (h : init ++ final.toList = before ++ event :: after) (he : event.raised = some e) :
    event.IsChallenge ∨ (after = [] ∧ event.Stops e x) := by
  rcases List.append_eq_append_iff.mp h with ⟨more, rfl, hm⟩ | ⟨more, rfl, hm⟩
  · -- the call is the final one
    cases final with
    | none => simp at hm
    | some last =>
      have hone : more = [] ∧ event = last ∧ after = [] := by
        cases more with
        | nil => simpa using hm.symm
        | cons => simp at hm
      obtain ⟨-, rfl, rfl⟩ := hone
      exact (hf event rfl e he).imp_right fun hs => ⟨rfl, hs⟩
  · cases more with
    | nil =>
      cases final with
      | none => simp at hm
      | some last =>
        have hone : event = last ∧ after = [] := by simpa using hm
        obtain ⟨rfl, rfl⟩ := hone
        exact (hf event rfl e he).imp_right fun hs => ⟨rfl, hs⟩
    | cons y more =>
      have hy : event = y := (List.cons.inj hm).1
      exact .inl (hi event (by simp [hy]) e he)

theorem Attempt.raised_event {request : Request} {a : Attempt} {e : Fault}
    (h : (a.event request).raised = some e) : a.result = .error e := by
  obtain ⟨evidence, result⟩ := a
  cases result with
  | ok j => cases h
  | error e' =>
    cases h
    rfl

/-- A request with a verdict failed only where the server asks for the full hash. -/
theorem Attempt.passed {request : Request} {a : Attempt} {v : Verdict}
    (hv : Verdict.of a.result = .ok v) {e : Fault} (h : (a.event request).raised = some e) :
    (a.event request).IsChallenge := by
  have ha := raised_event h
  rw [ha] at hv
  obtain ⟨r, rfl, hr⟩ := Verdict.of_error hv
  exact ⟨_, r, by rw [event, create, Create.event, ha], hr⟩

/-- A request without a verdict ends the upload it is made for. -/
theorem Attempt.stops {request : Request} {a : Attempt} {e' : Fault}
    (hv : Verdict.of a.result = .error e') {e : Fault} (h : (a.event request).raised = some e) :
    (a.event request).Stops e (.error e') := by
  have ha := raised_event h
  rw [ha] at hv
  rcases Verdict.of_error_error hv with rfl | ⟨r, rfl, hr⟩
  · exact .inl rfl
  · exact .inr ⟨_, r, e', by rw [event, create, Create.event, ha], hr, rfl⟩

namespace Round

theorem raised_of_succeeded {x : Round} (h : x.Succeeded) : ∀ event ∈ x.events,
    event.raised = none := by
  obtain ⟨url, bytes, sent, told⟩ := x
  obtain ⟨rfl, ht⟩ := h
  intro event he
  rcases List.mem_cons.mp he with rfl | he
  · rfl
  · cases told with
    | none => cases he
    | some p =>
      cases List.mem_singleton.mp he
      obtain ⟨n, result⟩ := p
      cases ht _ rfl
      rfl

/-- Of a round that failed the last call did. -/
theorem events_of_failed {x : Round} {e : Fault} (h : x.FailedWith e) : ∃ init final,
    x.events = init ++ [final] ∧ (∀ event ∈ init, event.raised = none) ∧
      final.raised = some e := by
  obtain ⟨url, bytes, sent, told⟩ := x
  rcases h with ⟨rfl, rfl⟩ | ⟨rfl, n, rfl⟩
  · exact ⟨[], _, rfl, fun event he => (nomatch he), rfl⟩
  · exact ⟨[_], _, rfl, fun event he => List.mem_singleton.mp he ▸ rfl, rfl⟩

end Round

theorem Round.raised_of_all {rounds : List Round} (h : ∀ y ∈ rounds, y.Succeeded) :
    ∀ event ∈ rounds.flatMap Round.events, event.raised = none := by
  intro event he
  obtain ⟨y, hy, he⟩ := List.mem_flatMap.mp he
  exact raised_of_succeeded (h y hy) event he

/-- A transfer that fails has no call that failed, or the last one, with its fault. -/
theorem Transfers.events_failed [Reader ρ] {limits : FileLimits} {size : PartSize}
    {tells : Nat → Option Int} {parts : List Part} {stream : ρ} {rounds : List Round} {e : Fault}
    (h : Transfers limits size tells parts stream rounds (.error e)) :
    ∃ (init : List Event) (final : Option Event),
      rounds.flatMap Round.events = init ++ final.toList ∧
      (∀ event ∈ init, event.raised = none) ∧ ∀ event ∈ final, event.raised = some e := by
  cases h with
  | unsized => exact ⟨[], none, rfl, fun event he => (nomatch he), fun event he => nomatch he⟩
  | course hc =>
    rcases hc.failed with hs | ⟨good, bad, rfl, hg, hb⟩
    · exact ⟨_, none, (List.append_nil _).symm, Round.raised_of_all hs, fun event he => nomatch he⟩
    · obtain ⟨init, final, hev, hi, hf⟩ := Round.events_of_failed hb
      refine ⟨good.flatMap Round.events ++ init, some final, ?_, ?_, ?_⟩
      · rw [List.flatMap_append, List.flatMap_singleton, hev, List.append_assoc]
        rfl
      · intro event he
        exact (List.mem_append.mp he).elim (Round.raised_of_all hg event) (hi event)
      · rintro event ⟨⟩
        exact hf

theorem Transfers.succeeded [Reader ρ] {limits : FileLimits} {size : PartSize}
    {tells : Nat → Option Int} {parts : List Part} {stream : ρ} {rounds : List Round}
    (h : Transfers limits size tells parts stream rounds (.ok ())) :
    rounds.map Round.url = (Transfer.ordered parts).map Part.url ∧ ∀ y ∈ rounds, y.Succeeded := by
  cases h with
  | course hc =>
    obtain ⟨hl, hs⟩ := hc.succeeded
    refine ⟨hc.urls.eq_of_length ?_, hs⟩
    rw [List.length_map, List.length_map, hl]

/-- The calls up to some point are passed: none failed, but for a demand for the full hash. -/
def Event.Passed (events : List Event) : Prop :=
  ∀ event ∈ events, ∀ e, event.raised = some e → event.IsChallenge

theorem Event.passed_append {before after : List Event} (hb : Passed before)
    (ha : Passed after) : Passed (before ++ after) :=
  fun event he => (List.mem_append.mp he).elim (hb event) (ha event)

theorem Event.passed_silent {events : List Event} (h : ∀ event ∈ events, event.raised = none) :
    Passed events := by
  intro event hm e he
  rw [h event hm] at he
  cases he

theorem Attempt.passed_all {request : Request} {attempts : List Attempt}
    (h : ∀ a ∈ attempts, ∃ v, Verdict.of a.result = .ok v) :
    Event.Passed (attempts.map (Attempt.event request)) := by
  intro event he e hr
  obtain ⟨a, hm, rfl⟩ := List.mem_map.mp he
  obtain ⟨v, hv⟩ := h a hm
  exact passed hv hr

/-- The attempts that led to an outcome are passed. -/
theorem Handshake.passed {rapid : Bool} {attempts : List Attempt} {out : Outcome}
    (h : Handshake rapid attempts) (request : Request)
    (hx : settle rapid (attempts.map Attempt.result) = some (.ok out)) :
    Event.Passed (attempts.map (Attempt.event request)) := by
  rcases h.verdicts with ha | ⟨_, _, _, -, -, -, he⟩
  · exact Attempt.passed_all ha
  · rw [hx] at he
    cases he

variable [Reader ρ] {limits : FileLimits} {c : Coordinator} {call : UploadCall ρ α}
  {calls : Calls} {x : Except Fault Report}

/-- **The last call.**  Of the calls of an upload only the last one may have failed otherwise than
by asking for the full hash, and then the upload ends for it. -/
theorem Conduct.split (h : Conduct limits c call calls x) :
    ∃ (init : List Event) (final : Option Event), calls.events = init ++ final.toList ∧
      (∀ event ∈ init, ∀ e, event.raised = some e → event.IsChallenge) ∧
      ∀ event ∈ final, ∀ e, event.raised = some e → event.IsChallenge ∨ event.Stops e x := by
  cases h with
  | unopened => exact ⟨[], none, rfl, fun event he => (nomatch he), fun event he => nomatch he⟩
  | @unsettled source attempts e hs hh hx =>
    rw [Calls.events_attempts]
    rcases hh.verdicts with ha | ⟨init, last, e', rfl, hi, hl, he⟩
    · exact ⟨_, none, List.append_assoc _ _ _, Attempt.passed_all ha, fun event he => nomatch he⟩
    · cases hx _ he
      refine ⟨init.map (Attempt.event (c.request call.parentId source)),
        some (last.event (c.request call.parentId source)), ?_, Attempt.passed_all hi, ?_⟩
      · rw [List.map_append]
        simp
      · rintro event ⟨⟩ e hr
        exact .inr (Attempt.stops hl hr)
  | rapid hs hh hx hr =>
    rw [Calls.events_attempts]
    exact ⟨_, none, List.append_assoc _ _ _, hh.passed _ hx, fun event he => nomatch he⟩
  | @interrupted source attempts out rounds e hs hh hx hr ht =>
    obtain ⟨init, final, hev, hi, hf⟩ := ht.events_failed
    rw [Calls.events_attempts, hev]
    refine ⟨_, final, ?_, Event.passed_append (hh.passed (c.request call.parentId source) hx)
      (Event.passed_silent hi), fun event he e hr => ?_⟩
    · rw [Option.map_none, Option.toList_none, List.append_nil, List.append_assoc]
    · cases (hf event he).symm.trans hr
      exact .inr (.inl rfl)
  | unnamed hs hh hx hr hsession ht =>
    rw [Calls.events_attempts]
    exact ⟨_, none, rfl, Event.passed_append (hh.passed _ hx)
      (Event.passed_silent (Round.raised_of_all ht.succeeded.2)), fun event he => nomatch he⟩
  | @transferred source attempts out rounds session answer x hs hh hx hr hsession ht ha =>
    rw [Calls.events_attempts]
    refine ⟨_, some _, rfl, Event.passed_append (hh.passed _ hx)
      (Event.passed_silent (Round.raised_of_all ht.succeeded.2)), ?_⟩
    rintro event ⟨⟩ e hr
    cases answer with
    | ok j => cases hr
    | error e' =>
      cases hr
      exact .inr (.inl ha)

/-! ### Orderly calls -/

/-- The calls of an upload that ends in `x` are orderly:
* there are at most two requests, and a second one only where samples are tried and the server
  answers the first with the code that asks for the full hash;
* the first request shows a sample and nothing else where samples are tried, and every other one
  the full hash with a proof and no sample;
* an answer that is taken as rapid ends the calls;
* a completion comes after one slice for each part of the selected list was sent and every
  percentage was taken, and it names the drive and the session that were selected;
* a call that fails is the last one and the upload ends in its fault, unless it asks for the full
  hash; where the server refuses a request by a code that is an array or an object the upload ends
  in the fault of looking that code up instead. -/
structure Calls.Orderly (c : Coordinator) (call : UploadCall ρ α) (calls : Calls)
    (x : Except Fault Report) : Prop where
  creates_le : calls.creates.length ≤ 2
  again : ∀ {first second}, calls.creates = [first, second] → c.triesRapid call = true ∧
    ∃ r, first.result = .error (.rejected r) ∧ r.code = .str ErrorCode.preHashMatched
  shows : ∀ {i create}, calls.creates[i]? = some create →
    if c.triesRapid call = true ∧ i = 0 then create.ShowsSample else create.ShowsProof
  rapid : ∀ create ∈ calls.creates, ∀ {j answer}, create.result = .ok j →
    Answer.ofJson j = .ok answer → answer.rapid = true → calls.rounds = [] ∧ calls.completion = none
  committed : ∀ finish ∈ calls.completion, ∃ out session,
    settle (c.triesRapid call) (calls.creates.map Create.result) = some (.ok out) ∧
    calls.rounds.map Round.url = (Transfer.ordered out.parts).map Part.url ∧
    (∀ round ∈ calls.rounds, round.Succeeded) ∧
    out.session = some session ∧ finish.driveId = c.driveId ∧
    finish.fileId = session.fileId ∧ finish.uploadId = session.uploadId
  last : ∀ {before event after e}, calls.events = before ++ event :: after →
    event.raised = some e → event.IsChallenge ∨ (after = [] ∧ event.Stops e x)

theorem Conduct.attempts (h : Conduct limits c call calls x) : calls.creates = [] ∨
    ∃ request attempts, Handshake (c.triesRapid call) attempts ∧
      calls.creates = attempts.map (Attempt.create request) := by
  cases h with
  | unopened => exact .inl rfl
  | unsettled _ hh | rapid _ hh | interrupted _ hh | unnamed _ hh | transferred _ hh =>
    exact .inr ⟨_, _, hh, rfl⟩

/-- Where an answer was taken as rapid, nothing is sent and nothing completed. -/
theorem Conduct.rapid_only (h : Conduct limits c call calls x) {create : Create}
    (hc : create ∈ calls.creates) {j : Json} {answer : Answer} (hj : create.result = .ok j)
    (ha : Answer.ofJson j = .ok answer) (hr : answer.rapid = true) :
    calls.rounds = [] ∧ calls.completion = none := by
  have accepted : ∀ {attempts : List Attempt} {out : Outcome} {request : Request},
      create ∈ attempts.map (Attempt.create request) → Handshake (c.triesRapid call) attempts →
      settle (c.triesRapid call) (attempts.map Attempt.result) = some (.ok out) →
      out.stage.isRapid = true := by
    intro attempts out request hm hh hx
    obtain ⟨a, ha', rfl⟩ := List.mem_map.mp hm
    have hv : Verdict.of a.result = .ok (.accepted answer) := by
      have hj : a.result = .ok j := hj
      rw [hj, Verdict.of, ha]
      rfl
    exact hh.isRapid hx ha' hv hr
  cases h with
  | unopened | unsettled | rapid => exact ⟨rfl, rfl⟩
  | interrupted _ hh hx hn | unnamed _ hh hx hn | transferred _ hh hx hn =>
    rw [accepted hc hh hx] at hn
    cases hn

theorem Conduct.orderly (h : Conduct limits c call calls x) : calls.Orderly c call x where
  creates_le := by
    rcases h.attempts with he | ⟨request, attempts, hh, he⟩
    · rw [he]
      exact Nat.zero_le _
    · rw [he, List.length_map]
      exact hh.length_le
  again := by
    intro first second hc
    rcases h.attempts with he | ⟨request, attempts, hh, he⟩
    · rw [he] at hc
      cases hc
    · rw [hc] at he
      cases hh with
      | none | sample | full => cases he
      | both h _ hv =>
        cases he
        obtain ⟨r, hr, hcode, -⟩ := Verdict.of_challenged hv
        exact ⟨h, r, hr, hcode⟩
  shows := by
    intro i create hc
    rcases h.attempts with he | ⟨request, attempts, hh, he⟩
    · rw [he] at hc
      cases hc
    · rw [he, List.getElem?_map] at hc
      obtain ⟨a, ha, rfl⟩ := Option.map_eq_some_iff.mp hc
      have hf := hh.isFull_eq ha
      split
      · rename_i hi
        rw [hi.1, hi.2] at hf
        exact a.showsSample request hf
      · rename_i hi
        refine a.showsProof request (hf.trans ?_)
        cases hr : c.triesRapid call with
        | false => rfl
        | true => simpa [hr] using hi
  rapid := fun create hc j answer hj ha hr => h.rapid_only hc hj ha hr
  committed := by
    intro finish hf
    cases h with
    | unopened | unsettled | rapid | interrupted | unnamed => cases hf
    | @transferred source attempts out rounds session answer x hs hh hx hr hsession ht =>
      cases hf
      refine ⟨out, session, ?_, ht.succeeded.1, ht.succeeded.2, hsession, rfl, rfl, rfl⟩
      rw [List.map_map]
      exact hx
  last := by
    intro before event after e he hr
    obtain ⟨init, final, hs, hi, hf⟩ := h.split
    exact Event.last_of hi hf (hs.symm.trans he) hr

/-- **The calls of every upload are orderly**, whatever the source, the settings, the server and
the callback are. -/
theorem Coordinator.watch_orderly [DriveService α] (c : Coordinator) (call : UploadCall ρ α)
    (s : Logged (Site α)) : ∃ calls : Calls, (c.watch call s).2 = calls.events ∧
      calls.Orderly c call (c.watch call s).1 := by
  obtain ⟨calls, hc, he⟩ := c.watch_conduct call s
  exact ⟨calls, he, hc.orderly⟩

end RapidUpload
