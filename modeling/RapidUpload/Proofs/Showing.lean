import RapidUpload.Proofs.Bodies
import RapidUpload.Proofs.Replies

/-!
# What a negotiation shows

The full hash and the proof depend on the content, the declared size and the token alone: not on
whether a sample was tried first, nor on how the stream splits its bytes.

* `Visit.Shows`: the body of a request, field by field, shows a content to be at hand.
* `Visit.Presents`: the body is the one of that evidence, and so two of them are the same.
* `Negotiator.chronicle_shows`: each request of the full-hash phase shows the content of the stream,
  by the token that the service holds at that time.
-/

namespace RapidUpload

variable {ρ π α α' : Type}

/-- The place that a token picks in a file of a size: the number of the first sixteen digits of its
MD5 modulo the size, and the start of an empty file. -/
def Possession.Picks (token : String) (size start : Nat) : Prop :=
  size = 0 ∧ start = 0 ∨ 0 < size ∧ ∃ bytes, Text.utf8? token = some bytes ∧
    start = Hex.natOf ((md5.hex bytes).toList.take 16) % size

theorem Possession.picks {token : String} {size start : Nat}
    (h : start? token size = some start) : Picks token size start := by
  unfold start? at h
  split at h
  · rename_i hz
    cases h
    exact .inl ⟨hz, rfl⟩
  · rename_i hz
    obtain ⟨bytes, hb, rfl⟩ := Option.map_eq_some_iff.mp h
    exact .inr ⟨Nat.pos_of_ne_zero hz, bytes, hb, rfl⟩

/-- Without samples there is one attempt at most. -/
theorem Handshake.length_le_one {rapid : Bool} {attempts : List Attempt}
    (h : Handshake rapid attempts) (hr : rapid = false) : attempts.length ≤ 1 := by
  cases h with
  | none | sample | full => simp
  | both h => cases h.symm.trans hr

/-- The requests in which the full hash is due: all without samples, all but the first with them. -/
def Negotiator.due (n : Negotiator) (visits : List (Visit α)) : List (Visit α) :=
  if n.rapid then visits.drop 1 else visits

/-- The body of a request to create an upload. -/
def Event.body? : Event → Option Json
  | .create body _ => some body
  | _ => none

namespace Visit

/-- The request is answered by a challenge that can be read. -/
def IsChallenged (v : Visit α) : Prop :=
  ∃ body result reply, v.event = .create body result ∧ CreateReply.of result = some reply ∧
    reply.accepted = false

/-- The body of the request describes its file, and shows the content: by the hash of all of it, and
by the window of at most eight bytes that the token which the service holds picks under the declared
size. -/
def Shows [DriveService α] (request : Request) (content : ByteArray) (v : Visit α) : Prop :=
  ∃ size start : Nat, ∃ body : Json, request.size = size ∧
    Possession.Picks (DriveService.heldToken v.before.state) size start ∧
    v.event.body? = some body ∧ request.DescribedIn body ∧
    Evidence.StatedIn body (some (.fullHash (sha1.hex content)
      (Base64.encode (content.window start (min 8 (size - start)))) "v1" "sha1"))

/-- The body of the request is the one whose evidence is the content's. -/
def Presents [DriveService α] (request : Request) (content : ByteArray) (v : Visit α) : Prop :=
  ∃ size start : Nat, request.size = size ∧
    Possession.start? (DriveService.heldToken v.before.state) size = some start ∧
    v.event.body? = some (request.body (some (.fullHash (sha1.hex content)
      (Base64.encode (content.window start (min Possession.windowSize (size - start))))
      Possession.version "sha1")))

/-- Such a body holds what it should under each name. -/
theorem Presents.shows [DriveService α] {request : Request} {content : ByteArray} {v : Visit α}
    (h : v.Presents request content) : v.Shows request content := by
  obtain ⟨size, start, hsize, hstart, hbody⟩ := h
  exact ⟨size, start, _, hsize, Possession.picks hstart, hbody, request.describedIn_body _,
    request.statedIn_body _⟩

/-- What is shown of a content is the same wherever the token is. -/
theorem Presents.body_eq [DriveService α] [DriveService α'] {request : Request}
    {content : ByteArray} {v : Visit α} {w : Visit α'} (hv : v.Presents request content)
    (hw : w.Presents request content)
    (ht : DriveService.heldToken v.before.state = DriveService.heldToken w.before.state) :
    v.event.body? = w.event.body? := by
  obtain ⟨size, start, hsize, hstart, hbody⟩ := hv
  obtain ⟨size', start', hsize', hstart', hbody'⟩ := hw
  cases Int.ofNat_inj.mp (hsize.symm.trans hsize')
  rw [← ht, hstart] at hstart'
  cases hstart'
  rw [hbody, hbody']

end Visit

namespace Exchange

variable [Reader ρ] [DriveService α] {request : Request} {r : ρ} {x : Exchange (Chronicled α)}

/-- An exchange that shows a stream is a visit that presents its content. -/
theorem Shows.visit {limit : Nat} {content : ByteArray} (h : x.Shows request r)
    (hd : Delivers limit r content) : (x.visit request).Presents request content := by
  obtain ⟨size, hsize, he⟩ := h.2 hd
  obtain ⟨window, hw, he⟩ := Option.map_eq_some_iff.mp he
  obtain ⟨start, hstart, rfl⟩ := Option.map_eq_some_iff.mp hw
  exact ⟨size, start, hsize, hstart, by rw [he]; rfl⟩

end Exchange

namespace Negotiator

variable [Reader ρ] [DriveService α] {n : Negotiator} {request : Request} {r : ρ}
  {a b : Chronicled α} {xs : List (Exchange (Chronicled α))} {limit : Nat} {content : ByteArray}

/-- The exchanges in which the full hash is due show it. -/
theorem due_visits (hn : Negotiation n.rapid request r a xs b) (hd : Delivers limit r content) :
    ∀ v ∈ n.due (xs.map (Exchange.visit request)), v.Presents request content := by
  have shown : ∀ {i : Nat} {x : Exchange (Chronicled α)}, xs[i]? = some x →
      (!(n.rapid && i == 0)) = true → (x.visit request).Presents request content := by
    intro i x hx hi
    refine (hn.shows x (List.mem_of_getElem? hx) ?_).visit hd
    have ha : (xs.map Exchange.toAttempt)[i]? = some x.toAttempt := by
      rw [List.getElem?_map, hx, Option.map_some]
    exact (hn.handshake.isFull_eq ha).trans hi
  intro v hv
  unfold due at hv
  split at hv
  · obtain ⟨i, hi⟩ := List.getElem?_of_mem hv
    rw [List.getElem?_drop, List.getElem?_map] at hi
    obtain ⟨x, hx, rfl⟩ := Option.map_eq_some_iff.mp hi
    refine shown hx ?_
    rw [Nat.add_comm, beq_eq_false_iff_ne.mpr (Nat.succ_ne_zero i), Bool.and_false]
    rfl
  · rename_i hr
    obtain ⟨x, hx, rfl⟩ := List.mem_map.mp hv
    obtain ⟨i, hi⟩ := List.getElem?_of_mem hx
    exact shown hi (by rw [Bool.not_eq_true _ |>.mp hr]; rfl)

/-- Where a proof can be given, the full hash is asked for: at once without samples, and after a
challenge with them. -/
theorem Ending.asks {spill : Spill} {out : Except Fault Outcome}
    (h : n.Ending request r spill a xs b out) (husable : spill.Usable)
    (hd : Delivers limit r content) (hbudget : n.sampler.budget ≤ limit)
    (hcopy : Spill.copySize ≤ limit) (hs : Integer.Short request.size) :
    (n.rapid = false → Possession.Provable spill.disk.limits.reach (DriveService.heldToken a)
      request.size → ∃ y, xs = [y]) ∧
    (n.rapid = true → ∃ x ys, xs = x :: ys ∧ ((x.visit request).IsChallenged →
      Possession.Provable spill.disk.limits.reach (DriveService.heldToken x.after.state)
        request.size → ∃ y, ys = [y])) := by
  have hlength := h.negotiation.handshake.length_le
  rw [List.length_map] at hlength
  have hchain := h.negotiation.chain
  have hh := h.negotiation.handshake
  refine ⟨fun hr hp => ?_, fun hr => ?_⟩
  · match xs, h with
    | [], .settled _ hx => rw [hr] at hx; cases hx
    | [], .untold h _ => cases h.symm.trans hr
    | [], .unsettled _ _ he =>
      obtain rfl : b = a := hchain
      exact absurd (he husable hd hbudget hcopy).2 (not_unprovable hp hs _)
    | [y], _ => exact ⟨y, rfl⟩
    | _ :: _ :: _, _ =>
      have := hh.length_le_one hr
      simp only [List.length_cons, List.length_map] at this
      omega
  · match xs, h with
    | [], .settled _ hx => rw [hr] at hx; cases hx
    | [], .untold _ hlong => exact absurd hs hlong
    | [], .unsettled _ _ he =>
      have := (he husable hd hbudget hcopy).1
      rw [hr] at this
      cases this
    | [x], h =>
      refine ⟨x, [], rfl, fun hchallenged hp => ?_⟩
      obtain ⟨-, -, rfl⟩ := hchain
      obtain ⟨body, result, reply, hevent, ho, hacc⟩ := hchallenged
      cases hevent
      rcases CreateReply.verdict_of ho with ⟨-, hacc'⟩ | ⟨challenge, hv, hanswer, -⟩
      · rw [hacc] at hacc'
        cases hacc'
      · have hnone : settle n.rapid [x.result] = none := by
          rw [hr]
          exact settle_challenged hv hanswer
        cases h with
        | settled _ hx => cases hnone.symm.trans hx
        | unsettled _ _ he => exact absurd (he husable hd hbudget hcopy).2 (not_unprovable hp hs _)
    | [x, y], _ => exact ⟨x, [y], rfl, fun _ _ => ⟨y, rfl⟩⟩
    | _ :: _ :: _ :: _, _ => simp only [List.length_cons] at hlength; omega

end Negotiator

/-- **Both ways into the full-hash phase show the same.**  Each request in which the full hash is
due shows the content of the stream, and so two of them about one content differ at most by their
tokens.  The token is the one that the service holds once the challenge is there; and where the
proof can be given under it, with a size that can be told of, the request is made. -/
theorem Negotiator.chronicle_shows [Reader ρ] [Reader π] [DriveService α] [DriveService α']
    (n n' : Negotiator) (request : Request) {r : ρ} {r' : π} {s : Logged (Scene ρ α)}
    {s' : Logged (Scene π α')} {limit limit' : Nat} {content : ByteArray}
    (hfresh : s.state.spill.handle = none) (hfresh' : s'.state.spill.handle = none)
    (hdelivers : Delivers limit r content) (hdelivers' : Delivers limit' r' content) :
    let visits := (n.chronicle request r s).2
    let visits' := (n'.chronicle request r' s').2
    (∀ v ∈ n.due visits, v.Shows request content) ∧
    (∀ v ∈ n.due visits, ∀ v' ∈ n'.due visits',
      DriveService.heldToken v.before.state = DriveService.heldToken v'.before.state →
        v.event.body? = v'.event.body?) ∧
    (∀ first v, visits = [first, v] → v.before.state = first.after.state) ∧
    (s.state.spill.Usable → n.sampler.budget ≤ limit → Spill.copySize ≤ limit →
      Integer.Short request.size →
      (n.rapid = false →
        Possession.Provable s.state.spill.disk.limits.reach
          (DriveService.heldToken s.state.service) request.size →
          ∃ v, visits = [v] ∧ v.before.state = s.state.service) ∧
      (n.rapid = true → ∃ first rest, visits = first :: rest ∧ (first.IsChallenged →
        Possession.Provable s.state.spill.disk.limits.reach
          (DriveService.heldToken first.after.state) request.size →
          ∃ v, rest = [v]))) := by
  obtain ⟨xs, b, hend, hvisits⟩ := n.chronicle_ending request r s hfresh
  obtain ⟨xs', b', hend', hvisits'⟩ := n'.chronicle_ending request r' s' hfresh'
  dsimp only
  rw [hvisits, hvisits']
  have hshows := due_visits hend.negotiation hdelivers
  have hshows' := due_visits hend'.negotiation hdelivers'
  refine ⟨fun v hv => (hshows v hv).shows,
    fun v hv v' hv' ht => (hshows v hv).body_eq (hshows' v' hv') ht, ?_, ?_⟩
  · exact fun first v hpair => hend.negotiation.chain.second hpair
  · intro husable hbudget hcopy hs
    obtain ⟨halone, hsampled⟩ := hend.asks husable hdelivers hbudget hcopy hs
    refine ⟨fun hr hp => ?_, fun hr => ?_⟩
    · obtain ⟨y, rfl⟩ := halone hr hp
      exact ⟨_, rfl, congrArg Chronicled.service hend.negotiation.chain.1⟩
    · obtain ⟨x, ys, rfl, hrest⟩ := hsampled hr
      refine ⟨_, _, rfl, fun hc hp => ?_⟩
      obtain ⟨y, rfl⟩ := hrest hc hp
      exact ⟨_, rfl⟩

open Rehearsal in
/-- A file that is declared too long is shown at once, and after a challenge in the same words. -/
theorem Negotiator.chronicle_shows_pair :
    let run := chronicle ⟨false, .standard⟩ (pairRequest 3) (Stream.ofBytes pair.bytes)
      (negotiation [⟨none, .ok rapidAnswer⟩])
    let run' := chronicle ⟨true, ⟨1⟩⟩ (pairRequest 3) pair (negotiation challengeThenSession)
    ∃ v, run.2 = [v] ∧ v.Shows (pairRequest 3) pair.bytes ∧
      ∃ v' ∈ due ⟨true, ⟨1⟩⟩ run'.2, v.event.body? = v'.event.body? := by
  have hdelivers : Delivers Spill.copySize (Stream.ofBytes pair.bytes) pair.bytes :=
    Stream.delivers_bytes ⟨rfl, rfl, by decide⟩ rfl Spill.copySize
  have hfresh : ∀ creates, (negotiation creates).state.spill.handle = none := fun _ => rfl
  obtain ⟨hshows, hsame, -, hmade⟩ := chronicle_shows ⟨false, .standard⟩ ⟨true, ⟨1⟩⟩ (pairRequest 3)
    (hfresh [⟨none, .ok rapidAnswer⟩]) (hfresh challengeThenSession) hdelivers (delivers_pair 0)
  obtain ⟨v, hv, hat⟩ := (hmade usable_roomy (by decide) (Nat.le_refl _) (by decide)).1 rfl
    (Possession.provable (by decide) (by decide))
  obtain ⟨v', hv', ht⟩ := List.map_eq_singleton_iff.mp (by decide +kernel :
    (due ⟨true, ⟨1⟩⟩ (chronicle ⟨true, ⟨1⟩⟩ (pairRequest 3) pair
      (negotiation challengeThenSession)).2).map
        (fun v => DriveService.heldToken v.before.state) = [""])
  have hm : v ∈ due ⟨false, .standard⟩ (chronicle ⟨false, .standard⟩ (pairRequest 3)
      (Stream.ofBytes pair.bytes) (negotiation [⟨none, .ok rapidAnswer⟩])).2 := by
    rw [hv]
    exact List.mem_singleton_self v
  have hm' := List.mem_of_mem_head? (congrArg List.head? hv')
  refine ⟨v, hv, hshows v hm, v', hm', hsame v hm v' hm' ?_⟩
  rw [ht, hat]
  rfl

end RapidUpload
