import RapidUpload.Proofs.Legible
import RapidUpload.Proofs.Readback
import RapidUpload.Proofs.Transports
import RapidUpload.Rehearsal.Wire

/-!
# What a request makes of its reply

A client that is open sends one post for a request whose body can be written, and what the request
ends in is made of the reply alone: the value of an answer, a rejection with all that the server
said, or a failure of the network.

* `HttpClient.request_replies`: the post of a request, and what becomes of the reply.
* `HttpClient.request_unwritten`: without a text for its body a request posts nothing.
* `Reply.Maps`: what a reply is documented to come to.
* `Reply.maps_iff`: that is so exactly for the replies that can be read.
* `HttpClient.request_maps`: and so in every request.
-/

namespace RapidUpload

open Step

/-! ### The post of a request -/

namespace HttpClient

variable {τ : Type} [Transport τ]

/-- The client is open: it was not closed, and it has a session or can open one. -/
structure Ready (c : HttpClient τ) : Prop where
  closed : c.closed = false
  session : c.sessionOpen = true ∨ c.checkCertificates = .ok ()

/-- The client with its session, opened if there is none. -/
def opened (c : HttpClient τ) : HttpClient τ :=
  if c.sessionOpen then c
  else
    { c with
      sessionOpen := true
      poolOpen := true
      transport := Transport.openSession (sessionSettings c.config) c.transport }

theorem opened_config (c : HttpClient τ) : c.opened.config = c.config := by
  unfold opened
  split <;> rfl

theorem opened_token (c : HttpClient τ) : c.opened.token = c.token := by
  unfold opened
  split <;> rfl

theorem opened_room (c : HttpClient τ) : c.opened.room = c.room := by
  unfold opened
  split <;> rfl

/-- The reply to what a request posts, and the transport after it. -/
def exchange (c : HttpClient τ) (endpoint : String) (body : Json) : Reply × τ :=
  Transport.post (posting c.config c.token endpoint body) c.opened.transport

theorem ensureSession_opens {s : Logged (HttpClient τ)}
    (h : s.state.sessionOpen = true ∨ s.state.checkCertificates = .ok ()) :
    Ends ensureSession s (fun _ t => t = { s with state := s.state.opened })
      (fun _ _ => False) := by
  unfold ensureSession opened
  rw [ends_bind, ends_look]
  cases hs : s.state.sessionOpen with
  | true => exact ends_pure.mpr rfl
  | false =>
    have hcheck : s.state.checkCertificates = .ok () := h.resolve_left (by simp [hs])
    rw [if_pos (by decide), ends_bind, ends_ofExcept, hcheck]
    rw [if_neg (by decide)]
    exact ⟨fun _ _ => ends_change.mpr rfl, fun e he => nomatch he⟩

omit [Transport τ] in
theorem ends_networkFault {β : Type} {lead text : String} {s : Logged (HttpClient τ)}
    {Q : β → Logged (HttpClient τ) → Prop} {E : Fault → Logged (HttpClient τ) → Prop} :
    Ends (networkFault lead text) s Q E ↔
      E (.transport (.network text) .null)
        { s with log := s.log.push ⟨.error, .api, [lead, text]⟩ } :=
  ends_bind.trans (ends_tell.trans ends_fail)

/-- **A request** of an open client is one post, where its body can be written, and ends in what is
made of the reply. -/
theorem request_replies {s : Logged (HttpClient τ)} (h : s.state.Ready) (endpoint : String)
    {body : Json} (hb : (body.orElse (.obj [])).Fits (s.state.room + 1)) :
    Ends (request endpoint body).outcome s
      (fun x t => x = (s.state.exchange endpoint body).1.answer s.state.room ∧
        t.state = { s.state.opened with transport := (s.state.exchange endpoint body).2 })
      (fun _ _ => False) := by
  rw [ends_outcome]
  unfold request requireOpen
  rw [ends_bind, ends_bind, ends_look, h.closed, if_neg Bool.false_ne_true, ends_pure, ends_bind]
  refine (ensureSession_opens h.session).mono ?_ fun _ _ h => h.elim
  rintro _ m rfl
  rw [ends_bind, ends_look]
  dsimp only
  have hdata : encode s.state.opened.room body = .ok (body.orElse (.obj [])).wire := by
    rw [opened_room]
    exact encode_iff.mpr hb
  rw [hdata, ends_bind]
  refine ends_pure.mpr ?_
  rw [ends_bind, ends_tell, ends_bind, ends_tell, ends_bind, transact_ends]
  have hpost : (Transport.post ⟨s.state.opened.config.urlFor endpoint,
      (body.orElse (.obj [])).wire, ("Content-Type", "application/json") ::
        authorization s.state.opened.token, s.state.opened.config.proxy⟩ s.state.opened.transport) =
      s.state.exchange endpoint body := by
    rw [exchange, posting, opened_config, opened_token]
  dsimp only
  rw [hpost, opened_room]
  generalize s.state.exchange endpoint body = exchanged
  obtain ⟨reply, t⟩ := exchanged
  match reply with
  | .error text | .ok ⟨_, .error text⟩ => exact ends_networkFault.mpr ⟨rfl, rfl⟩
  | .ok ⟨status, .ok text⟩ =>
    dsimp only
    rw [ends_bind, ends_tell, ends_bind, ends_ofExcept]
    refine ⟨fun v hd => ?_, fun e hd => ⟨(Reply.answer_of_decode_error hd).symm, rfl⟩⟩
    rw [Reply.answer_of_decode hd]
    split
    · rw [ends_bind, ends_ofExcept]
      refine ⟨fun r hr => ?_, fun e hr => ⟨by rw [hr]; rfl, rfl⟩⟩
      rw [ends_bind, ends_tell, ends_fail, hr]
      exact ⟨rfl, rfl⟩
    · exact ends_pure.mpr ⟨rfl, rfl⟩

/-- A body that cannot be written ends its request before anything is posted. -/
theorem request_unwritten {s : Logged (HttpClient τ)} (h : s.state.Ready) (endpoint : String)
    {body : Json} (hb : ¬(body.orElse (.obj [])).Fits (s.state.room + 1)) :
    Ends (request endpoint body).outcome s
      (fun x t => (∃ e, x = .error e ∧ e.isOwn = false) ∧ t.state = s.state.opened)
      (fun _ _ => False) := by
  rw [ends_outcome]
  unfold request requireOpen
  rw [ends_bind, ends_bind, ends_look, h.closed, if_neg Bool.false_ne_true, ends_pure, ends_bind]
  refine (ensureSession_opens h.session).mono ?_ fun _ _ h => h.elim
  rintro _ m rfl
  rw [ends_bind, ends_look]
  dsimp only
  rw [opened_room, ends_bind, ends_ofExcept]
  exact ⟨fun _ hd => absurd (encode_ok hd).2 hb, fun e he => ⟨⟨e, rfl, isOwn_encode he⟩, rfl⟩⟩

end HttpClient

/-! ### What a reply comes to -/

/-- A rejection has the status of the answer. -/
theorem Rejection.status_ofAnswer {status : Int} {v : Json} {r : Rejection}
    (h : ofAnswer status v = .ok r) : r.status = status := by
  have made : ∀ {code text}, make code text status v = .ok r → r.status = status := by
    intro code text h
    unfold make at h
    split at h
    · cases h
      rfl
    · cases he : ErrorCode.explain code <;> rw [he] at h <;> cases h
      rfl
  unfold ofAnswer at h
  split at h <;> exact made h

namespace Reply

/-- The value of a text: the empty object for none, and the text itself where it is no JSON. -/
inductive Decodes (room : Nat) : String → Json → Prop where
  | empty : Decodes room "" (.obj [])
  | json {text : String} {v : Json} (h : text ≠ "") (hv : Json.read room text = .ok v) :
    Decodes room text v
  | text {text : String} (h : text ≠ "") (hv : Json.read room text = .error .malformed) :
    Decodes room text (.str text)

/-- What a request is documented to make of a reply. -/
inductive Maps (room : Nat) : Reply → Except Fault Json → Prop where
  /-- There is no answer. -/
  | lost (why : String) : Maps room (.error why) (.error (.transport (.network why) .null))
  /-- The text of the answer cannot be read off the connection. -/
  | unread (status : Int) (why : String) :
    Maps room (.ok ⟨status, .error why⟩) (.error (.transport (.network why) .null))
  | value {status : Int} {text : String} {v : Json} (h : status < 400)
    (hv : Decodes room text v) : Maps room (.ok ⟨status, .ok text⟩) (.ok v)
  /-- The rejection has the status, the value, and the code that an object holds. -/
  | rejected {status : Int} {text : String} {v : Json} {r : Rejection} (h : 400 ≤ status)
    (hv : Decodes room text v) (hstatus : r.status = status) (hpayload : r.payload = v)
    (hcode : r.code = if v.isObj then v.field "code" else .null) :
    Maps room (.ok ⟨status, .ok text⟩) (.error (.rejected r))

variable {room : Nat} {reply : Reply} {text : String} {v : Json}

theorem decodes_of_decode (h : HttpClient.decode room text = .ok v) : Decodes room text v := by
  unfold HttpClient.decode at h
  split at h
  · rename_i htext
    cases h
    exact htext ▸ .empty
  · rename_i htext
    split at h
    · cases h
      exact .json htext ‹_›
    · cases h
      exact .text htext ‹_›
    · cases h
    · cases h

/-- A documented end is a value or a fault of the library's own. -/
theorem Maps.isOwn {x : Except Fault Json} (h : Maps room reply x) {e : Fault}
    (he : x = .error e) : e.isOwn = true := by
  cases h with
  | value => cases he
  | lost | unread | rejected =>
    cases he
    rfl

/-- **What a reply comes to** is as documented exactly where the reply can be read. -/
theorem maps_iff (room : Nat) (reply : Reply) :
    Maps room reply (reply.answer room) ↔ reply.Legible room false := by
  constructor
  · intro h
    have hcandid : Candid (reply.answer room) (reply.Legible room false) := candid_answer reply
    unfold Candid at hcandid
    split at hcandid
    · exact hcandid
    · rename_i he
      exact hcandid.mp (h.isOwn he)
  · intro h
    match reply with
    | .error why => exact .lost why
    | .ok ⟨status, .error why⟩ => exact .unread status why
    | .ok ⟨status, .ok text⟩ =>
      obtain ⟨v, hd, hlegible⟩ := h
      have hv := decodes_of_decode hd
      rw [answer_of_decode hd]
      split
      · rename_i hstatus
        rw [if_pos hstatus, if_neg Bool.false_ne_true] at hlegible
        have hread := Rejection.reading_ofAnswer status v
        cases hr : Rejection.ofAnswer status v with
        | error e =>
          rw [hr] at hread
          exact absurd hlegible hread.2
        | ok r =>
          obtain ⟨hcode, hpayload⟩ := Rejection.ofAnswer_ok hr
          exact .rejected hstatus hv (Rejection.status_ofAnswer hr) hpayload hcode
      · rename_i hstatus
        exact .value (Int.not_le.mp hstatus) hv

/-- A reply that cannot be read ends in a fault that is not the library's own. -/
theorem answer_of_not_legible (h : ¬reply.Legible room false) :
    ∃ e, reply.answer room = .error e ∧ e.isOwn = false := by
  have hcandid : Candid (reply.answer room) (reply.Legible room false) := candid_answer reply
  unfold Candid at hcandid
  split at hcandid
  · exact absurd hcandid h
  · rename_i e he
    refine ⟨e, he, ?_⟩
    rw [← Bool.not_eq_true, hcandid]
    exact h

end Reply

/-! ### Every request -/

namespace HttpClient

variable {τ : Type} [Transport τ]

/-- Opening a session posts nothing. -/
theorem requests_opened (c : HttpClient (Metered τ)) :
    Traffic.requests c.opened.transport.traffic = Traffic.requests c.transport.traffic := by
  unfold opened
  split
  · rfl
  · have hopen : (Transport.openSession (sessionSettings c.config) c.transport).traffic =
        c.transport.traffic ++ [.opened] := rfl
    dsimp only
    rw [hopen, Traffic.requests, List.filterMap_append, ← Traffic.requests]
    exact List.append_nil _

/-- What a metered client has sent after a request is what it had sent, and the one post. -/
theorem requests_exchange (c : HttpClient (Metered τ)) (endpoint : String) (body : Json) :
    Traffic.requests (c.exchange endpoint body).2.traffic =
      Traffic.requests c.transport.traffic ++ [.inl (posting c.config c.token endpoint body)] := by
  have hpush : (c.exchange endpoint body).2.traffic =
      c.opened.transport.traffic ++ [.sent (.inl (posting c.config c.token endpoint body))] := rfl
  rw [hpush, Traffic.requests, List.filterMap_append, ← Traffic.requests, requests_opened]
  rfl

/-- **Every request** of an open client makes exactly one post where its body can be written, and
ends as is documented for the reply exactly where the reply can be read: its text decodes, and where
the status is an error and no message explains it the code can be looked up.  Else it ends in a
fault that is not the library's own.  So does a request whose body cannot be written, and it makes
no post. -/
theorem request_maps {s : Logged (HttpClient (Metered τ))} (h : s.state.Ready) (endpoint : String)
    (body : Json) :
    Ends (request endpoint body).outcome s
      (fun x t =>
        ((body.orElse (.obj [])).Fits (s.state.room + 1) →
          Traffic.requests t.state.transport.traffic =
            Traffic.requests s.state.transport.traffic ++
              [.inl (posting s.state.config s.state.token endpoint body)] ∧
          (Reply.Maps s.state.room (s.state.exchange endpoint body).1 x ↔
            (s.state.exchange endpoint body).1.Legible s.state.room false) ∧
          (¬(s.state.exchange endpoint body).1.Legible s.state.room false →
            ∃ e, x = .error e ∧ e.isOwn = false)) ∧
        (¬(body.orElse (.obj [])).Fits (s.state.room + 1) →
          Traffic.requests t.state.transport.traffic =
            Traffic.requests s.state.transport.traffic ∧
          ∃ e, x = .error e ∧ e.isOwn = false))
      (fun _ _ => False) := by
  by_cases hb : (body.orElse (.obj [])).Fits (s.state.room + 1)
  · refine (request_replies h endpoint hb).mono ?_ fun _ _ h => h
    rintro _ t ⟨rfl, ht⟩
    refine ⟨fun _ => ⟨?_, Reply.maps_iff _ _, Reply.answer_of_not_legible⟩, fun hn => absurd hb hn⟩
    rw [ht]
    exact s.state.requests_exchange endpoint body
  · refine (request_unwritten h endpoint hb).mono ?_ fun _ _ h => h
    rintro x t ⟨hx, ht⟩
    refine ⟨fun hy => absurd hy hb, fun _ => ⟨?_, hx⟩⟩
    rw [ht]
    exact s.state.requests_opened

end HttpClient

namespace Rehearsal

/-- A client whose one reply is still to come. -/
def answered (reply : Reply) : Logged (HttpClient (Metered Wire)) :=
  ⟨.new (some "token") .standard (.new ⟨[reply], true, roomy⟩), #[]⟩

theorem ready_answered (reply : Reply) : (answered reply).state.Ready := ⟨rfl, .inr rfl⟩

theorem exchange_answered (reply : Reply) (endpoint : String) (body : Json) :
    ((answered reply).state.exchange endpoint body).1 = reply := rfl

theorem room_answered (reply : Reply) : (answered reply).state.room = Json.depthLimit := rfl

theorem requests_answered (reply : Reply) :
    Traffic.requests (answered reply).state.transport.traffic = [] := rfl

/-- What a server sends that refuses with a code alone. -/
def refusal (code : Json) : Json := .obj [("code", code)]

/-- The reply of that server. -/
def refused (code : Json) : Reply := .ok ⟨400, .ok (refusal code).wire⟩

theorem decode_refusal {room : Nat} {code : Json} (h : Json.Portable room code) :
    HttpClient.decode (room + 1) (refusal code).wire = .ok (refusal code) :=
  HttpClient.decode_wire (Json.portable_single ⟨"code", by decide⟩ h)

example : (refusal (.arr [.int 1])).wire = "\x7b\"code\": [1]\x7d" := by decide +kernel

end Rehearsal

namespace HttpClient

open Rehearsal

/-- A code that is known can be looked up, and an integer of too many digits is not posted. -/
theorem request_maps_refused : (answered (refused "NotFound.File")).state.Ready ∧
    (refused "NotFound.File").Legible Json.depthLimit false ∧
    Ends (request accountEndpoint .null).outcome (answered (refused "NotFound.File"))
      (fun x t => (Traffic.requests t.state.transport.traffic).length = 1 ∧
        Reply.Maps Json.depthLimit (refused "NotFound.File") x)
      (fun _ _ => False) ∧
    Ends (request accountEndpoint (.obj [("size", .int (pow10 Integer.digitLimit))])).outcome
      (answered (refused "NotFound.File"))
      (fun x t => (Traffic.requests t.state.transport.traffic).length = 0 ∧
        ∃ e, x = .error e ∧ e.isOwn = false)
      (fun _ _ => False) := by
  have hlegible : (refused "NotFound.File").Legible Json.depthLimit false :=
    ⟨_, decode_refusal (.str ⟨"NotFound.File", by decide⟩), fun _ _ _ => rfl⟩
  have hready := ready_answered (refused "NotFound.File")
  refine ⟨hready, hlegible, ?_, ?_⟩
  · refine (request_maps hready accountEndpoint .null).mono ?_ fun _ _ h => h
    rintro x t ⟨hwritten, -⟩
    obtain ⟨hpost, hmaps, -⟩ := hwritten (.obj fun _ h => nomatch h)
    rw [exchange_answered, room_answered] at hmaps
    exact ⟨by rw [hpost, requests_answered, List.nil_append, List.length_singleton],
      hmaps.mpr hlegible⟩
  · refine (request_maps hready accountEndpoint _).mono ?_ fun _ _ h => h
    rintro x t ⟨-, hunwritten⟩
    obtain ⟨hpost, hx⟩ := hunwritten fun h => by
      cases h with
      | obj h =>
        cases h _ List.mem_cons_self with
        | int h => exact Integer.not_short_pow10 (Nat.le_refl _) h
    exact ⟨by rw [hpost, requests_answered]; rfl, hx⟩

/-- A code that is a list cannot, and the request ends as is not documented. -/
theorem request_unexplained : (answered (refused (.arr [.int 1]))).state.Ready ∧
    Ends (request accountEndpoint .null).outcome (answered (refused (.arr [.int 1])))
      (fun x _ => x = .error (.undefined .noLookup) ∧
        ¬Reply.Maps Json.depthLimit (refused (.arr [.int 1])) x)
      (fun _ _ => False) := by
  have hready := ready_answered (refused (.arr [.int 1]))
  refine ⟨hready, ?_⟩
  have hwritten : (Json.null.orElse (.obj [])).Fits (Json.depthLimit + 1) :=
    .obj fun _ h => nomatch h
  refine (request_replies hready accountEndpoint hwritten).mono ?_ fun _ _ h => h
  rintro x t ⟨hx, -⟩
  rw [exchange_answered, room_answered] at hx
  have hcode : Json.Portable 977 (.arr [.int 1]) :=
    .arr (List.forall_mem_singleton.mpr (.int (by decide)))
  have hanswer : (refused (.arr [.int 1])).answer Json.depthLimit = .error (.undefined .noLookup) :=
    (Reply.answer_of_decode (decode_refusal hcode)).trans rfl
  rw [hx, hanswer]
  exact ⟨rfl, fun hmaps => nomatch hmaps.isOwn rfl⟩

end HttpClient

end RapidUpload
