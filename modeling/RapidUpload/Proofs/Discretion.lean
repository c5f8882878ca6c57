import RapidUpload.Proofs.Overheard

/-!
# What the token reaches

A token goes into the header that carries it, and picks the window that a proof shows.  Beside this
an upload does the same by one token as by another one: it moves the spill to two places, but the
spill is rewound before its bytes are sent.

* `Post.Akin`: two posts that differ at most in the header that carries the token and in the proof.
* `Outbox`: a transport, and what went out over it with the headers of its session.
* `Transport.Blind`: a transport that looks at neither the header nor the proof.
* `Client.send`: how an upload by a token ends, and what goes out.
* `Client.send_discreet`: by two tokens the same goes out, and both uploads end in the same.
-/

namespace RapidUpload

open Step

variable {ρ τ β : Type}

/-! ### Posts by two tokens -/

/-- Two rows of named values that differ at most in the value of one name. -/
def AlikeBut (name : String) : List (String × β) → List (String × β) → Prop :=
  List.Forall₂ fun x y => x.1 = y.1 ∧ (x.1 ≠ name → x.2 = y.2)

theorem alikeBut_refl (name : String) (xs : List (String × β)) : AlikeBut name xs xs :=
  List.forall₂_same.mpr fun _ _ => ⟨rfl, fun _ => rfl⟩

/-- Two posts that differ at most in the header that carries the token and in the proof. -/
structure Post.Akin (p q : Post) : Prop where
  url : p.url = q.url
  proxy : p.proxy = q.proxy
  headers : AlikeBut "Authorization" p.headers q.headers
  data : ∃ fields fields', p.data = (Json.obj fields).wire ∧ q.data = (Json.obj fields').wire ∧
    AlikeBut "proof_code" fields fields'

/-- Evidence that differs in its proof alone gives bodies that differ in its field alone. -/
theorem Evidence.Akin.fields {told : Prop} {e e' : Evidence} (h : e.Akin told e') :
    AlikeBut "proof_code" e.fields e'.fields := by
  have heq := h.unproved
  match e, e' with
  | .preHash hash, .preHash hash' =>
    cases heq
    exact alikeBut_refl _ _
  | .preHash hash, .fullHash .. | .fullHash .., .preHash hash => cases heq
  | .fullHash hash proof version hashName, .fullHash hash' proof' version' hashName' =>
    cases heq
    refine .cons ⟨rfl, fun _ => rfl⟩ (.cons ⟨rfl, fun _ => rfl⟩ (.cons ⟨rfl, fun h => ?_⟩ ?_))
    · exact absurd rfl h
    · exact .cons ⟨rfl, fun _ => rfl⟩ .nil

theorem Json.orElse_obj (fields : List (String × Json)) :
    (Json.obj fields).orElse (.obj []) = .obj fields := by
  cases fields <;> rfl

/-- What is posted by two tokens. -/
theorem HttpClient.posting_akin {token token' : String} (ht : token ≠ "") (ht' : token' ≠ "")
    (config : HttpConfig) (endpoint : String) {fields fields' : List (String × Json)}
    (h : AlikeBut "proof_code" fields fields') :
    (posting config (some token) endpoint (.obj fields)).Akin
      (posting config (some token') endpoint (.obj fields')) where
  url := rfl
  proxy := rfl
  headers := by
    have carries : ∀ {token}, token ≠ "" →
        authorization (some token) = [("Authorization", "Bearer " ++ token)] := by
      intro token ht
      unfold authorization
      rw [Option.filter_some, if_pos (bne_iff_ne.mpr ht)]
    unfold posting
    rw [carries ht, carries ht']
    exact .cons ⟨rfl, fun _ => rfl⟩ (.cons ⟨rfl, fun h => absurd rfl h⟩ .nil)
  data := by
    refine ⟨fields, fields', ?_, ?_, h⟩
    · rw [posting, Json.orElse_obj]
    · rw [posting, Json.orElse_obj]

/-- A body is written or not whatever its evidence is. -/
theorem Request.check_body (r : Request) (e e' : Evidence) (room : Nat) :
    Json.check room (r.body (some e)) = Json.check room (r.body (some e')) := by
  cases room <;> cases e <;> cases e' <;> rfl

/-- What can be written alike is encoded alike. -/
theorem HttpClient.encode_alike {room : Nat} {body body' : Json}
    (h : Json.check (room + 1) (body.orElse (.obj [])) =
      Json.check (room + 1) (body'.orElse (.obj []))) :
    (encode room body).map (fun _ => ()) = (encode room body').map fun _ => () := by
  unfold encode Json.write
  rw [h]
  cases Json.check (room + 1) (body'.orElse (.obj [])) with
  | ok => rfl
  | error e => cases e <;> rfl

/-- A transport that looks neither at the header that carries the token nor at the proof. -/
def Transport.Blind (τ : Type) [Transport τ] : Prop :=
  ∀ {p q : Post}, p.Akin q → ∀ t : τ, Transport.post p t = Transport.post q t

/-! ### What goes out -/

/-- No header is one that carries a token. -/
def Unauthorized (headers : List (String × String)) : Prop :=
  ∀ h ∈ headers, h.1.toLower ≠ "authorization"

namespace HttpConfig

theorem mem_setHeader {headers : List (String × String)} {h x : String × String}
    (hx : x ∈ setHeader headers h) : x ∈ headers ∨ x = h := by
  induction headers with
  | nil => exact .inr (List.mem_singleton.mp hx)
  | cons first rest ih =>
    unfold setHeader at hx
    split at hx
    · rcases List.mem_cons.mp hx with rfl | hx
      · exact .inr rfl
      · exact .inl (List.mem_cons_of_mem _ hx)
    · rcases List.mem_cons.mp hx with rfl | hx
      · exact .inl List.mem_cons_self
      · exact (ih hx).imp_left (List.mem_cons_of_mem _)

/-- The headers of a session carry no token unless the settings say so. -/
theorem unauthorized_headers {c : HttpConfig} (h : Unauthorized c.extraHeaders) :
    Unauthorized c.headers := by
  have folded : ∀ extra headers : List (String × String), Unauthorized extra →
      Unauthorized headers → Unauthorized (extra.foldl setHeader headers) := by
    intro extra
    induction extra with
    | nil => exact fun _ _ hheaders => hheaders
    | cons first extra ih =>
      intro headers hextra hheaders
      obtain ⟨hfirst, hextra⟩ := List.forall_mem_cons.mp hextra
      refine ih _ hextra fun x hx => ?_
      rcases mem_setHeader hx with hx | rfl
      · exact hheaders x hx
      · exact hfirst
  refine folded _ _ h fun x hx => ?_
  rcases List.mem_pair.mp hx with rfl | rfl
  · exact (by decide +kernel : "User-Agent".toLower ≠ "authorization")
  · exact (by decide +kernel : "Referer".toLower ≠ "authorization")

end HttpConfig

/-- A request as it goes out, with the headers of the session that it goes over. -/
structure Outgoing where
  session : List (String × String)
  request : Post ⊕ Put

namespace Outgoing

/-- The headers of the session, and those of the request. -/
def headers (x : Outgoing) : List (String × String) :=
  x.session ++ match x.request with
    | .inl post => post.headers
    | .inr _ => []

/-- The bytes of a part. -/
def isPut (x : Outgoing) : Bool := x.request.isRight

/-- What goes out is the same, but for posts that differ in the token's header and in the proof. -/
inductive Akin : Outgoing → Outgoing → Prop where
  | post (session : List (String × String)) {p q : Post} (h : p.Akin q) :
    Akin ⟨session, .inl p⟩ ⟨session, .inl q⟩
  | put (session : List (String × String)) (put : Put) :
    Akin ⟨session, .inr put⟩ ⟨session, .inr put⟩

end Outgoing

/-- A transport, the headers of its session, and what went out over it. -/
structure Outbox (τ : Type) where
  inner : τ
  session : List (String × String)
  sent : List Outgoing

namespace Outbox

/-- The transport once something more went out. -/
def push (m : Outbox τ) (request : Post ⊕ Put) (r : β × τ) : β × Outbox τ :=
  (r.1, ⟨r.2, m.session, m.sent ++ [⟨m.session, request⟩]⟩)

instance [Transport τ] : Transport (Outbox τ) where
  loadCertificates path m := Transport.loadCertificates path m.inner
  openSession settings m :=
    ⟨Transport.openSession settings m.inner, settings.headers, m.sent⟩
  closeSession m :=
    let (withPool, inner) := Transport.closeSession m.inner
    (withPool, { m with inner := inner })
  closePool m := { m with inner := Transport.closePool m.inner }
  post p m := m.push (.inl p) (Transport.post p m.inner)
  put p m := m.push (.inr p) (Transport.put p m.inner)

/-- A transport does what it does with its outgoings kept. -/
def Keeps (m : Outbox τ) (t : τ) : Prop := m.inner = t

theorem transports_keeps [Transport τ] :
    Transports (fun _ => Eq) Eq (Keeps : Outbox τ → τ → Prop) where
  certificates := by rintro m _ path rfl; rfl
  openSession := by rintro m _ config _ _ - rfl; rfl
  closeSession := by rintro m _ rfl; exact ⟨rfl, rfl⟩
  closePool := by rintro m _ rfl; rfl
  post := by rintro m _ p _ rfl rfl; exact ⟨rfl, rfl⟩
  put := by rintro m _ p rfl; exact ⟨rfl, rfl⟩

theorem post_eq [Transport τ] (p : Post) (m : Outbox τ) :
    Transport.post p m = m.push (.inl p) (Transport.post p m.inner) := rfl

theorem put_eq [Transport τ] (p : Put) (m : Outbox τ) :
    Transport.put p m = m.push (.inr p) (Transport.put p m.inner) := rfl

/-- Over one transport the same went out by two tokens.  No bytes of a part went out with a token,
and the session carries none. -/
inductive Akin : Outbox τ → Outbox τ → Prop where
  | mk (inner : τ) {session : List (String × String)} {sent sent' : List Outgoing}
    (plain : Unauthorized session) (h : List.Forall₂ Outgoing.Akin sent sent')
    (bare : ∀ x ∈ sent ++ sent', x.isPut = true → Unauthorized x.headers) :
    Akin ⟨inner, session, sent⟩ ⟨inner, session, sent'⟩

/-- So it is once something more went out by each. -/
theorem Akin.push {m n : Outbox τ} (h : m.Akin n) {request request' : Post ⊕ Put}
    (ha : ∀ session, Outgoing.Akin ⟨session, request⟩ ⟨session, request'⟩) (r : β × τ) :
    (m.push request r).2.Akin (n.push request' r).2 := by
  obtain ⟨inner, plain, h, bare⟩ := h
  rename_i session sent sent'
  refine .mk _ plain (List.rel_append h (.cons (ha session) .nil)) fun x hx hput => ?_
  have last : ∀ {request}, x = ⟨session, request⟩ → Unauthorized x.headers := by
    rintro request rfl
    match request with
    | .inl post => cases hput
    | .inr put =>
      rw [Outgoing.headers, List.append_nil]
      exact plain
  rcases List.mem_append.mp hx with hx | hx
  · rcases List.mem_append.mp hx with hx | hx
    · exact bare x (List.mem_append_left _ hx) hput
    · exact last (List.mem_singleton.mp hx)
  · rcases List.mem_append.mp hx with hx | hx
    · exact bare x (List.mem_append_right _ hx) hput
    · exact last (List.mem_singleton.mp hx)

end Outbox

/-! ### Clients by two tokens -/

/-- The clients hold the two tokens, and their settings set no header that carries one. -/
structure Holding (token token' : String) (config : HttpConfig) (held held' : Option String) :
    Prop where
  plain : Unauthorized config.extraHeaders
  left : held = some token
  right : held' = some token'

/-- Transports that do not look at what the tokens reach do the same by both. -/
theorem Outbox.transports_akin [Transport τ] (hb : Transport.Blind τ) (token token' : String) :
    Transports (Holding token token') Post.Akin (Akin : Outbox τ → Outbox τ → Prop) where
  certificates := by rintro _ _ path ⟨_, _, _, _⟩; rfl
  openSession := by
    rintro _ _ config _ _ hk ⟨_, _, h, bare⟩
    exact .mk _ (HttpConfig.unauthorized_headers hk.plain) h bare
  closeSession := by
    rintro _ _ ⟨_, plain, h, bare⟩
    exact ⟨rfl, .mk _ plain h bare⟩
  closePool := by
    rintro _ _ ⟨_, plain, h, bare⟩
    exact .mk _ plain h bare
  post := by
    rintro m n p q hd h
    have hinner : m.inner = n.inner := by cases h; rfl
    rw [post_eq, post_eq, ← hb hd, ← hinner]
    exact ⟨rfl, h.push (fun _ => .post _ hd) _⟩
  put := by
    rintro m n p h
    have hinner : m.inner = n.inner := by cases h; rfl
    rw [put_eq, put_eq, ← hinner]
    exact ⟨rfl, h.push (fun _ => .put _ p) _⟩

/-- Where proofs can be given by two tokens, giving them leaves a spill at one place or at two. -/
theorem Possession.alike_prove {s : Spill} {limits : FileLimits} {content : ByteArray}
    (h : s.Stores limits content) {token token' : String} {size : Int}
    (ht : Provable limits.reach token size) (ht' : Provable limits.reach token' size) :
    Alike (fun _ _ => True) Spill.Akin (prove token size s) (prove token' size s) := by
  obtain ⟨cursor, hc, hlimits, -⟩ := h
  have moved : ∀ {token}, Provable limits.reach token size →
      Ends (prove token size) s
        (fun _ s' => ∃ position, s' = s.onto { cursor with position := position })
        fun _ _ => False := fun ht =>
    (prove_moves hc _ size).mono (fun _ _ h => h.1) fun e _ he =>
      ht.not_unprovable e (hlimits ▸ he)
  refine Alike.of_ends (moved ht) (moved ht') ?_
  rintro _ _ _ _ ⟨position, rfl⟩ ⟨position', rfl⟩
  exact ⟨trivial, .moved s _ position position'⟩

namespace HttpClient

/-- The clients differ in the tokens that they hold, and in what went out by these. -/
abbrev Akin (token token' : String) : HttpClient (Outbox τ) → HttpClient (Outbox τ) → Prop :=
  Twins (Holding token token') Outbox.Akin

/-- **Clients of two tokens are peers**: they answer each request alike, whatever proof it shows. -/
theorem peers_akin [Transport τ] (hb : Transport.Blind τ) {token token' : String} (ht : token ≠ "")
    (ht' : token' ≠ "") (limits : FileLimits) :
    Peers False limits (fun size => Possession.Provable limits.reach token size ∧
        Possession.Provable limits.reach token' size)
      (Akin token token' : HttpClient (Outbox τ) → HttpClient (Outbox τ) → Prop) := by
  have hV := Outbox.transports_akin hb token token'
  have posted : ∀ (endpoint : String) {fields fields' : List (String × Json)},
      AlikeBut "proof_code" fields fields' →
      (∀ room, (encode room (.obj fields)).map (fun _ => ()) =
        (encode room (.obj fields')).map fun _ => ()) → InStep Eq (Beside False (Akin token token'))
        (request endpoint (.obj fields) : Act (HttpClient (Outbox τ)) Json)
        (request endpoint (.obj fields')) := by
    intro endpoint fields fields' h hwritten
    refine inStep_request hV ?_ hwritten False.elim
    rintro config _ _ ⟨-, rfl, rfl⟩
    exact posting_akin ht ht' config endpoint h
  refine ⟨?_, ?_, inStep_uploadPart hV, fun _ _ _ =>
    posted _ (alikeBut_refl _ _) fun _ => rfl⟩
  · rintro c d spill content size ⟨⟨-, rfl, rfl⟩, _, _, _, _, _⟩ hstores ⟨hp, hp'⟩
    refine Agree.mono (Possession.alike_prove hstores hp hp') ?_ fun _ _ h => h
    exact fun _ _ _ _ h => ⟨False.elim, h.2⟩
  · intro r e e' he
    exact posted _ (List.rel_append (alikeBut_refl _ _) he.fields) fun room =>
      encode_alike (r.check_body e e' (room + 1))

/-- The client holding a token from now on, with its outgoings kept. -/
def outboxed (token : String) (c : HttpClient τ) : HttpClient (Outbox τ) :=
  ⟨c.config, some token, c.closed, c.sessionOpen, c.poolOpen, c.room,
    ⟨c.transport, if c.sessionOpen then c.config.headers else [], []⟩⟩

/-- By two tokens nothing went out yet. -/
theorem akin_outboxed {c : HttpClient τ} (h : Unauthorized c.config.extraHeaders)
    (token token' : String) : Akin token token' (c.outboxed token) (c.outboxed token') := by
  refine .mk ⟨h, rfl, rfl⟩ _ _ _ _ (.mk _ ?_ .nil fun _ hx => nomatch hx)
  split
  · exact HttpConfig.unauthorized_headers h
  · exact fun _ hx => nomatch hx

end HttpClient

/-! ### Uploads by two tokens -/

namespace Client

open HttpClient

/-- The client holding a token from now on, with its outgoings kept. -/
def outboxed (token : String) (c : Client (HttpClient τ)) : Client (HttpClient (Outbox τ)) :=
  ⟨c.account.outboxed token, c.disk, c.driveId, c.uploads⟩

/-- The client holding a token from now on. -/
def withToken (token : String) (c : Client (HttpClient τ)) : Client (HttpClient τ) :=
  { c with account := { c.account with token := some token } }

variable [Reader ρ] [Transport τ]

/-- How an upload by a token ends, and what goes out, in order. -/
def send (call : UploadCall ρ (HttpClient (Outbox τ))) (token : String)
    (s : Logged (Client (HttpClient τ))) : Except Fault Report × List Outgoing :=
  match upload call ⟨s.state.outboxed token, s.log⟩ with
  | .ok report t => (.ok report, t.state.account.transport.sent)
  | .error e t => (.error e, t.state.account.transport.sent)

/-- An upload ends as it does with its outgoings kept. -/
theorem send_upload {call : UploadCall ρ (HttpClient (Outbox τ))}
    {call' : UploadCall ρ (HttpClient τ)}
    (hcall : call.Match True Eq (HttpClient.Match Outbox.Keeps) call') (token : String)
    (s : Logged (Client (HttpClient τ))) :
    Ends (upload call') ⟨s.state.withToken token, s.log⟩
      (fun report _ => (send call token s).1 = .ok report)
      (fun e _ => (send call token s).1 = .error e) := by
  have hV := Outbox.transports_keeps (τ := τ)
  have halike := inStep_upload (inStep_defaultDrive hV fun hk => posting_eq hk _ _ _)
    (services_match hV) hcall ⟨s.state.outboxed token, s.log⟩
    ⟨s.state.withToken token, s.log⟩ (.mk (.mk _ _ _ (.mk rfl _ _ _ _ rfl)) s.log)
  unfold send
  generalize upload call ⟨s.state.outboxed token, s.log⟩ = x at halike ⊢
  refine (ends_run _ _).mono ?_ ?_
  · intro report t hr
    rw [hr] at halike
    cases halike with
    | ok h => exact congrArg Except.ok h.1
  · intro e t he
    rw [he] at halike
    cases halike with
    | error e h => rfl

/-- Two tokens make no difference but in the header that carries them and in the proof: both uploads
end in the same, the same goes out in the same order, and the bytes of a part go out without a
header that carries a token. -/
structure Discreet (call : UploadCall ρ (HttpClient (Outbox τ))) (token token' : String)
    (s : Logged (Client (HttpClient τ))) : Prop where
  result : (send call token s).1 = (send call token' s).1
  sent : List.Forall₂ Outgoing.Akin (send call token s).2 (send call token' s).2
  bare : ∀ x ∈ (send call token s).2 ++ (send call token' s).2, x.isPut = true →
    Unauthorized x.headers

/-- **The token reaches nothing else.**  By two tokens that proofs can be given with, uploads of
bytes at hand differ in the header that carries the token and in the proof alone, where the
transport looks at neither and the callback, if there is one, goes in step. -/
theorem send_discreet (hb : Transport.Blind τ) {call : UploadCall ρ (HttpClient (Outbox τ))}
    {content : ByteArray} (horigin : call.origin = .bytes content)
    (hsize : call.size.getD content.size = content.size) {token token' : String}
    (ht : token ≠ "") (ht' : token' ≠ "") {s : Logged (Client (HttpClient τ))}
    (hp : Possession.Provable s.state.disk.limits.reach token content.size)
    (hp' : Possession.Provable s.state.disk.limits.reach token' content.size)
    (htold : Tellers False (HttpClient.Akin token token') call.progress call.progress)
    (hplain : Unauthorized s.state.account.config.extraHeaders) :
    Discreet call token token' s := by
  have hcall : call.Match False Eq (HttpClient.Akin token token') call :=
    ⟨rfl, rfl, htold, fun disk => Source.inStep_resolve disk _ _ _⟩
  have hopens : call.Opens fun size =>
      Possession.Provable s.state.disk.limits.reach token size ∧
        Possession.Provable s.state.disk.limits.reach token' size := by
    intro disk t
    rw [horigin]
    refine ends_pure.mpr fun size hs => ?_
    cases hs
    rw [hsize]
    exact ⟨hp, hp'⟩
  have hdrive : InStep Eq (Beside False (HttpClient.Akin token token'))
      (defaultDrive : Act (HttpClient (Outbox τ)) Json) defaultDrive := by
    refine inStep_defaultDrive (Outbox.transports_akin hb token token') ?_
    rintro config _ _ ⟨-, rfl, rfl⟩
    exact posting_akin ht ht' config _ (alikeBut_refl "proof_code" [])
  have halike := upload_beside hdrive (peers_akin hb ht ht' s.state.disk.limits) hcall hopens
    (s := ⟨s.state.outboxed token, s.log⟩) (t := ⟨s.state.outboxed token', s.log⟩)
    (.mk (.mk _ _ _ (akin_outboxed hplain token token')) fun _ => rfl) rfl
  have kept : ∀ {c d : Logged (Client (HttpClient (Outbox τ)))},
      Beside False (Match (HttpClient.Akin token token')) c d →
      c.state.account.transport.Akin d.state.account.transport := by
    rintro _ _ ⟨⟨_, _, _, ⟨_, _, _, _, _, h⟩⟩, -⟩
    exact h
  have hsend : (send call token s).1 = (send call token' s).1 ∧ ∃ m n : Outbox τ, m.Akin n ∧
      (send call token s).2 = m.sent ∧ (send call token' s).2 = n.sent := by
    unfold send
    generalize upload call ⟨s.state.outboxed token, s.log⟩ = x at halike ⊢
    generalize upload call ⟨s.state.outboxed token', s.log⟩ = y at halike ⊢
    cases halike with
    | ok h => exact ⟨congrArg Except.ok h.1, _, _, kept h.2, rfl, rfl⟩
    | error e h => exact ⟨rfl, _, _, kept h, rfl, rfl⟩
  obtain ⟨hresult, _, _, ⟨_, _, hsent, hbare⟩, hm, hn⟩ := hsend
  refine ⟨hresult, ?_, ?_⟩
  · rw [hm, hn]
    exact hsent
  · rw [hm, hn]
    exact hbare

end Client

namespace Rehearsal

theorem blind_wire : Transport.Blind Wire := fun _ _ => rfl

/-- An upload of the two bytes from memory, by their full hash. -/
def provenBytes : UploadCall Stream (HttpClient (Outbox Wire)) :=
  ⟨.bytes pair.bytes, "root", some "pair", none, none, some false⟩

/-- A client that gets all that an upload of the two bytes asks for. -/
def served : Logged (Client (HttpClient Wire)) :=
  caller [.ok ⟨200, .ok ("\x7b\"file_id\": \"file\", \"upload_id\": \"upload\", " ++
    "\"part_info_list\": [\x7b\"part_number\": 1, \"upload_url\": \"part\"\x7d]\x7d")⟩,
    .ok ⟨200, .ok ""⟩, .ok ⟨200, .ok "\x7b\"file_id\": \"file\"\x7d"⟩]

/-- A token that is half of a pair. -/
def halfToken : String := String.ofList (Text.ofCodes [0xd800])

end Rehearsal

namespace Client

open Rehearsal

/-- Two tokens that pick two windows of the bytes. -/
theorem send_discreet_pair :
    Possession.start? "token" 2 = some 0 ∧ Possession.start? "another" 2 = some 1 ∧
      (send provenBytes "token" served).2.length = 3 ∧
      Discreet provenBytes "token" "another" served := by
  have provable : ∀ {token}, (Text.utf8? token).isSome = true →
      Possession.Provable roomy.limits.reach token pair.bytes.size := fun h =>
    Possession.provable h (by decide)
  have untold : Tellers False (HttpClient.Akin "token" "another") provenBytes.progress
      provenBytes.progress := .none
  refine ⟨by decide +kernel, by decide +kernel, by decide +kernel, ?_⟩
  exact send_discreet blind_wire rfl rfl (by decide) (by decide) (provable (by decide +kernel))
    (provable (by decide +kernel)) untold fun _ h => nomatch h

/-- By a token that has no bytes nothing goes out where a proof is due. -/
theorem send_half : halfToken ≠ "" ∧ provenBytes.origin = .bytes pair.bytes ∧
    provenBytes.size.getD pair.bytes.size = pair.bytes.size ∧
    Unauthorized served.state.account.config.extraHeaders ∧
    ¬Discreet provenBytes "token" halfToken served := by
  refine ⟨by decide, rfl, rfl, fun _ h => (nomatch h), fun h => ?_⟩
  have hsent : (send provenBytes "token" served).2.length = 3 := by decide +kernel
  have hunsent : (send provenBytes halfToken served).2.length = 0 := by decide +kernel
  have hlength := h.sent.length_eq
  rw [hsent, hunsent] at hlength
  cases hlength

end Client

end RapidUpload
