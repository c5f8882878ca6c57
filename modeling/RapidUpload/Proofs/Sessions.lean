import RapidUpload.Http.Client
import RapidUpload.Proofs.Carry
import Mathlib.Logic.Relation

/-!
# The sessions of a client

A client opens a session when it sends something and none is open, and closes what is open when it
is closed.  Beside its transport stands what it has had the transport do, and from that what became
of each session and its pool.

* `Traffic.leases`: the sessions that were opened, with how often each was closed.
* `Books.Step`: all that a client can do to its connections.
* `Books.Balanced`: what holds between the flags of a client and its traffic.
* `Metered`: a transport and its traffic so far.
* `HttpClient.Moves`: the connections come to where a client can bring them, as by every call.
-/

namespace RapidUpload

open Step Relation

variable {τ β γ : Type}

/-! ### Traffic -/

/-- What a client has its transport do. -/
inductive Traffic where
  | opened
  | sent (request : Post ⊕ Put)
  /-- A session is closed, and its pool with it or not. -/
  | sessionClosed (withPool : Bool)
  | poolClosed

/-- A session and its pool: how often each was closed. -/
structure Lease where
  sessionClosings : Nat
  poolClosings : Nat
deriving DecidableEq

namespace Lease

/-- Nothing closed. -/
def fresh : Lease := ⟨0, 0⟩

/-- The session closed once, and the pool closed once. -/
def returned : Lease := ⟨1, 1⟩

/-- The session is open. -/
def isOpen (lease : Lease) : Bool := lease.sessionClosings = 0

/-- Some sessions, the newest first, once something more was done: the newest is what is closed. -/
def after : List Lease → Traffic → List Lease
  | leases, .opened => fresh :: leases
  | ⟨sessions, pools⟩ :: leases, .sessionClosed withPool =>
    ⟨sessions + 1, pools + withPool.toNat⟩ :: leases
  | ⟨sessions, pools⟩ :: leases, .poolClosed => ⟨sessions, pools + 1⟩ :: leases
  | leases, _ => leases

end Lease

namespace Traffic

/-- The sessions that some traffic opened, the newest first. -/
def leases (traffic : List Traffic) : List Lease := traffic.foldl Lease.after []

/-- What some traffic sent. -/
def requests (traffic : List Traffic) : List (Post ⊕ Put) :=
  traffic.filterMap fun
    | .sent request => some request
    | _ => none

@[simp] theorem leases_push (traffic : List Traffic) (x : Traffic) :
    leases (traffic ++ [x]) = Lease.after (leases traffic) x := by
  rw [leases, List.foldl_append]
  rfl

/-- At every moment at most one session is open, and nothing was closed twice.  A session is opened
only once all earlier ones and their pools were closed, and what is sent goes over an open one. -/
structure Orderly (traffic : List Traffic) : Prop where
  one : ∀ before, before <+: traffic → ((leases before).filter Lease.isOpen).length ≤ 1
  once : ∀ before, before <+: traffic →
    ∀ lease ∈ leases before, lease.sessionClosings ≤ 1 ∧ lease.poolClosings ≤ 1
  alone : ∀ before, before ++ [.opened] <+: traffic → ∀ lease ∈ leases before, lease = .returned
  carried : ∀ before request, before ++ [.sent request] <+: traffic →
    ∃ lease ∈ leases before, lease.isOpen = true

/-- Among sessions that were closed but for the newest one at most one is open. -/
theorem length_filter_isOpen_le {newest : Lease} {returned : List Lease}
    (hr : ∀ lease ∈ returned, lease = .returned) :
    ((newest :: returned).filter Lease.isOpen).length ≤ 1 := by
  have hnone : returned.filter Lease.isOpen = [] := by
    rw [List.filter_eq_nil_iff]
    intro lease hl
    rw [hr lease hl]
    exact Bool.false_ne_true
  rw [List.filter_cons, hnone]
  split
  · exact Nat.le_refl 1
  · exact Nat.zero_le 1

theorem orderly_nil : Orderly [] where
  one before h := by
    rw [List.prefix_nil.mp h]
    exact Nat.zero_le 1
  once before h lease hl := by
    rw [List.prefix_nil.mp h] at hl
    cases hl
  alone before h := by simp at h
  carried before request h := by simp at h

/-- Traffic stays orderly by one thing more that leaves all sessions but the newest closed. -/
theorem Orderly.push {traffic : List Traffic} {x : Traffic} {newest : Lease}
    {returned : List Lease} (h : Orderly traffic)
    (hl : leases (traffic ++ [x]) = newest :: returned)
    (hr : ∀ lease ∈ returned, lease = .returned)
    (hn : newest.sessionClosings ≤ 1 ∧ newest.poolClosings ≤ 1)
    (halone : x = .opened → ∀ lease ∈ leases traffic, lease = .returned)
    (hcarried : ∀ request, x = .sent request → ∃ lease ∈ leases traffic, lease.isOpen = true) :
    Orderly (traffic ++ [x]) where
  one before hb := by
    rcases List.prefix_concat_iff.mp hb with rfl | hb
    · rw [hl]
      exact length_filter_isOpen_le hr
    · exact h.one before hb
  once before hb := by
    rcases List.prefix_concat_iff.mp hb with rfl | hb
    · rw [hl]
      refine List.forall_mem_cons.mpr ⟨hn, fun lease hm => ?_⟩
      rw [hr lease hm]
      exact ⟨Nat.le_refl 1, Nat.le_refl 1⟩
    · exact h.once before hb
  alone before hb := by
    rcases List.prefix_concat_iff.mp hb with heq | hb
    · obtain ⟨rfl, hx⟩ := List.append_inj' heq rfl
      exact halone (List.singleton_inj.mp hx).symm
    · exact h.alone before hb
  carried before request hb := by
    rcases List.prefix_concat_iff.mp hb with heq | hb
    · obtain ⟨rfl, hx⟩ := List.append_inj' heq rfl
      exact hcarried request (List.singleton_inj.mp hx).symm
    · exact h.carried before request hb

end Traffic

/-! ### Books -/

/-- The flags of a client, and what it had its transport do. -/
structure Books where
  closed : Bool
  sessionOpen : Bool
  poolOpen : Bool
  traffic : List Traffic

namespace Books

/-- What closing does: the session is closed, and then the pool unless it went with the session. -/
def closings (b : Books) (withPool : Bool) : List Traffic :=
  match b.sessionOpen, b.poolOpen with
  | true, true => .sessionClosed withPool :: if withPool then [] else [.poolClosed]
  | true, false => [.sessionClosed withPool]
  | false, true => [.poolClosed]
  | false, false => []

/-- The books of a closed client. -/
def shut (b : Books) (withPool : Bool) : Books :=
  ⟨true, false, false, b.traffic ++ b.closings withPool⟩

/-- All that a client does to its connections. -/
inductive Step : Books → Books → Prop where
  | opened {b : Books} (h : b.sessionOpen = false) :
    Step b ⟨b.closed, true, true, b.traffic ++ [.opened]⟩
  | sent {b : Books} (request : Post ⊕ Put) (hc : b.closed = false) (hs : b.sessionOpen = true) :
    Step b { b with traffic := b.traffic ++ [.sent request] }
  | shut (b : Books) (withPool : Bool) : Step b (b.shut withPool)

/-- What a client comes to by whatever it does. -/
abbrev Reaches : Books → Books → Prop := ReflTransGen Step

/-- The flags tell what the traffic has come to: all sessions and pools were closed once, but the
newest where the flags are set. -/
structure Balanced (b : Books) : Prop where
  orderly : Traffic.Orderly b.traffic
  pool : b.poolOpen = b.sessionOpen
  leases : ∃ returned, (∀ lease ∈ returned, lease = Lease.returned) ∧
    Traffic.leases b.traffic = if b.sessionOpen then .fresh :: returned else returned

/-- Nothing was done yet. -/
theorem balanced_nil : Balanced ⟨false, false, false, []⟩ :=
  ⟨Traffic.orderly_nil, rfl, [], fun _ h => (nomatch h), rfl⟩

/-- All sessions and pools were closed once exactly where nothing is open. -/
theorem Balanced.returned_iff {b : Books} (h : b.Balanced) :
    (∀ lease ∈ Traffic.leases b.traffic, lease = .returned) ↔ b.sessionOpen = false := by
  obtain ⟨-, -, returned, hr, hl⟩ := h
  rw [hl]
  cases b.sessionOpen with
  | false => exact ⟨fun _ => rfl, fun _ => hr⟩
  | true => exact ⟨fun h => (nomatch h _ List.mem_cons_self), fun h => nomatch h⟩

/-- A step keeps the books balanced. -/
theorem Balanced.step {b b' : Books} (h : b.Balanced) (hs : Step b b') : b'.Balanced := by
  obtain ⟨closed, sessionOpen, poolOpen, traffic⟩ := b
  obtain ⟨ho, hpool, returned, hr, hl⟩ := h
  dsimp only at ho hpool hl
  subst hpool
  have pushed : ∀ {traffic leases x}, Traffic.leases traffic = leases →
      Traffic.leases (traffic ++ [x]) = Lease.after leases x := by
    rintro traffic _ x rfl
    exact Traffic.leases_push traffic x
  have small : ∀ {n m : Nat}, n ≤ 1 → m ≤ 1 → n ≤ 1 ∧ m ≤ 1 := fun h h' => ⟨h, h'⟩
  cases hs with
  | opened hopen =>
    cases hopen
    exact ⟨ho.push (pushed hl) hr (small (by decide) (by decide)) (fun _ => by rwa [hl])
      (fun _ h => nomatch h), rfl, returned, hr, pushed hl⟩
  | sent request hc hopen =>
    cases hopen
    refine ⟨ho.push (pushed hl) hr (small (by decide) (by decide)) (fun h => nomatch h)
      (fun _ _ => ⟨.fresh, ?_, rfl⟩), rfl, returned, hr, pushed hl⟩
    rw [hl]
    exact List.mem_cons_self
  | shut withPool =>
    cases poolOpen with
    | false =>
      have hsame : (shut ⟨closed, false, false, traffic⟩ withPool).traffic = traffic :=
        List.append_nil traffic
      exact ⟨by rwa [hsame], rfl, returned, hr, by rwa [hsame]⟩
    | true =>
      have hclosed := pushed (x := .sessionClosed withPool) hl
      have ho' := ho.push hclosed hr (by cases withPool <;> decide) (fun h => nomatch h)
        (fun _ h => nomatch h)
      have all : ∀ lease ∈ Lease.returned :: returned, lease = .returned :=
        List.forall_mem_cons.mpr ⟨rfl, hr⟩
      cases withPool with
      | true => exact ⟨ho', rfl, _, all, hclosed⟩
      | false =>
        have htwo : (shut ⟨closed, true, true, traffic⟩ false).traffic =
            (traffic ++ [.sessionClosed false]) ++ [.poolClosed] :=
          (List.append_assoc traffic [.sessionClosed false] [.poolClosed]).symm
        have hboth := pushed (x := .poolClosed) hclosed
        refine ⟨?_, rfl, _, all, by rwa [htwo]⟩
        rw [htwo]
        exact ho'.push hboth hr (small (by decide) (by decide)) (fun h => nomatch h)
          (fun _ h => nomatch h)

/-- So does whatever a client does. -/
theorem Balanced.reaches {b b' : Books} (h : b.Balanced) (hr : Reaches b b') : b'.Balanced := by
  induction hr with
  | refl => exact h
  | tail _ hs ih => exact ih.step hs

/-- A closed client stays closed, and sends nothing. -/
theorem Reaches.closed {b b' : Books} (hr : Reaches b b') (hc : b.closed = true) :
    b'.closed = true ∧ Traffic.requests b'.traffic = Traffic.requests b.traffic := by
  induction hr with
  | refl => exact ⟨hc, rfl⟩
  | @tail b' b'' _ hs ih =>
    obtain ⟨hc', hsame⟩ := ih
    cases hs with
    | opened _ =>
      refine ⟨hc', ?_⟩
      rw [Traffic.requests, List.filterMap_append]
      exact (List.append_nil _).trans hsame
    | sent _ hopen _ => cases hc'.symm.trans hopen
    | shut withPool =>
      refine ⟨rfl, ?_⟩
      have hnone : Traffic.requests (b'.closings withPool) = [] := by
        unfold closings
        split
        · cases withPool <;> rfl
        all_goals rfl
      rw [shut, Traffic.requests, List.filterMap_append, ← Traffic.requests, ← Traffic.requests,
        hnone, List.append_nil]
      exact hsame

end Books

/-! ### Metered transports -/

/-- A transport, and what it was made to do. -/
structure Metered (τ : Type) where
  inner : τ
  traffic : List Traffic

namespace Metered

/-- A transport with nothing done yet. -/
def new (inner : τ) : Metered τ := ⟨inner, []⟩

/-- All sessions that were opened were closed once, and their pools too. -/
def Returned (m : Metered τ) : Prop := ∀ lease ∈ Traffic.leases m.traffic, lease = .returned

/-- The transport after one thing more. -/
def push (m : Metered τ) (x : Traffic) (inner : τ) : Metered τ := ⟨inner, m.traffic ++ [x]⟩

instance [Transport τ] : Transport (Metered τ) where
  loadCertificates path m := Transport.loadCertificates path m.inner
  openSession settings m := m.push .opened (Transport.openSession settings m.inner)
  closeSession m :=
    let (withPool, inner) := Transport.closeSession m.inner
    (withPool, m.push (.sessionClosed withPool) inner)
  closePool m := m.push .poolClosed (Transport.closePool m.inner)
  post p m :=
    let (reply, inner) := Transport.post p m.inner
    (reply, m.push (.sent (.inl p)) inner)
  put p m :=
    let (reply, inner) := Transport.put p m.inner
    (reply, m.push (.sent (.inr p)) inner)

end Metered

namespace HttpClient

/-- The books of a client. -/
def books (c : HttpClient (Metered τ)) : Books :=
  ⟨c.closed, c.sessionOpen, c.poolOpen, c.transport.traffic⟩

/-- The connections come to where a client can bring them. -/
def Moves (s t : Logged (HttpClient (Metered τ))) : Prop :=
  Books.Reaches s.state.books t.state.books

theorem onward_moves : Onward (Moves (τ := τ)) := ⟨fun _ => .refl, fun h h' => h.trans h'⟩

/-- A step of the transport changes nothing else. -/
theorem transact_ends {f : τ → β × τ} {s : Logged (HttpClient τ)}
    {Q : β → Logged (HttpClient τ) → Prop} {E : Fault → Logged (HttpClient τ) → Prop} :
    Ends (transact f) s Q E ↔
      Q (f s.state.transport).1
        { s with state := { s.state with transport := (f s.state.transport).2 } } := by
  unfold transact
  rw [ends_bind, ends_look]
  cases f s.state.transport with
  | mk b t => rw [ends_bind, ends_change, ends_pure]

/-- Only lines are told. -/
def Still {σ : Type} (s t : Logged σ) : Prop := t.state = s.state

theorem onward_still {σ : Type} : Onward (Still (σ := σ)) := ⟨fun _ => rfl, fun h h' => h'.trans h⟩

theorem still_tell {σ : Type} {level : Log.Level} {channel : Log.Channel}
    {pieces : List Log.Piece} :
    Carries (Still (σ := σ)) (Act.tell level channel pieces) := carries_tell fun _ => rfl

theorem still_networkFault (lead text : String) :
    Carries Still (networkFault lead text : Act (HttpClient τ) β) :=
  onward_still.bind still_tell fun _ => onward_still.fail _

variable [Transport τ]

/-- Closing closes what is open. -/
theorem close_ends (s : Logged (HttpClient (Metered τ))) :
    Ends close s (fun _ t => ∃ withPool, t.state.books = s.state.books.shut withPool)
      (fun _ _ => False) := by
  have pool : ∀ s : Logged (HttpClient (Metered τ)),
      Ends (do
          if (← Act.look).poolOpen then
            Act.change fun c =>
              { c with poolOpen := false, transport := Transport.closePool c.transport }) s
        (fun _ t => t.state.books = ⟨s.state.closed, s.state.sessionOpen, false,
          s.state.transport.traffic ++ if s.state.poolOpen then [.poolClosed] else []⟩)
        (fun _ _ => False) := by
    intro s
    rw [ends_bind, ends_look]
    cases hp : s.state.poolOpen with
    | true =>
      rw [if_pos rfl, ends_change]
      rfl
    | false =>
      rw [if_neg Bool.false_ne_true, ends_pure, if_neg Bool.false_ne_true, List.append_nil, ← hp]
      rfl
  obtain ⟨⟨config, token, closed, sessionOpen, poolOpen, room, transport⟩, log⟩ := s
  unfold close
  rw [ends_bind, ends_change, ends_bind, ends_look]
  cases sessionOpen with
  | false =>
    refine (pool _).mono (fun _ t ht => ⟨false, ht.trans ?_⟩) fun _ _ h => h
    cases poolOpen <;> rfl
  | true =>
    refine ends_bind.mpr (transact_ends.mpr (ends_bind.mpr (ends_change.mpr ?_)))
    refine (pool _).mono (fun _ t ht => ⟨(Transport.closeSession transport.inner).1, ht.trans ?_⟩)
      fun _ _ h => h
    have hpush : (Transport.closeSession transport).2.traffic =
        transport.traffic ++ [.sessionClosed (Transport.closeSession transport.inner).1] := rfl
    have hpool : (Transport.closeSession transport).1 =
        (Transport.closeSession transport.inner).1 := rfl
    dsimp only
    rw [hpush, hpool]
    generalize (Transport.closeSession transport.inner).1 = withPool
    cases poolOpen <;> cases withPool <;> simp [books, Books.shut, Books.closings]

/-- What ends a call before there is a session: the client is closed, or none can be opened. -/
inductive Unserved (c : HttpClient (Metered τ)) : Fault → Prop where
  | closed (h : c.closed = true) : c.Unserved (.transport .closed .null)
  | unopened {e : Fault} (h : c.closed = false) (hs : c.sessionOpen = false)
    (he : c.checkCertificates = .error e) : c.Unserved e

/-- A client that is not closed has a session for what it sends: one that was open, or is now. -/
structure Served (s t : Logged (HttpClient (Metered τ))) : Prop where
  closed : s.state.closed = false
  session : s.state.sessionOpen = true ∨ s.state.checkCertificates = .ok ()
  isOpen : t.state.sessionOpen = true
  moves : Moves s t

/-- A session is open afterwards, unless the certificates do not load. -/
theorem ensureSession_ends (s : Logged (HttpClient (Metered τ))) :
    Ends ensureSession s
      (fun _ t => (s.state.sessionOpen = true ∨ s.state.checkCertificates = .ok ()) ∧
        t.state.closed = s.state.closed ∧ t.state.sessionOpen = true ∧ Moves s t)
      (fun e t => s.state.sessionOpen = false ∧ s.state.checkCertificates = .error e ∧ t = s) := by
  unfold ensureSession
  rw [ends_bind, ends_look]
  cases hs : s.state.sessionOpen with
  | true =>
    rw [if_neg (by decide), ends_pure]
    exact ⟨.inl rfl, rfl, hs, .refl⟩
  | false =>
    rw [if_pos (by decide), ends_bind, ends_ofExcept]
    refine ⟨fun _ hc => ends_change.mpr ⟨.inr hc, rfl, rfl, .single ?_⟩, fun e he => ⟨rfl, he, rfl⟩⟩
    exact .opened (b := s.state.books) hs

/-- At most one request is sent, and nothing else is done to the connections. -/
def Over (c d : HttpClient (Metered τ)) : Prop :=
  d.books = c.books ∨
    ∃ request, d.books = { c.books with traffic := c.books.traffic ++ [.sent request] }

/-- A call sends at most one request, over a session, unless the client is closed or no session can
be opened. -/
theorem call_ends {f : Act (HttpClient (Metered τ)) β} (s : Logged (HttpClient (Metered τ)))
    (hf : ∀ s, Ends f s (fun _ t => Over s.state t.state) (fun _ t => Over s.state t.state)) :
    Ends (do
        requireOpen
        ensureSession
        f) s
      (fun _ t => Served s t) (fun e t => Served s t ∨ s.state.Unserved e ∧ t = s) := by
  unfold requireOpen
  rw [ends_bind, ends_bind, ends_look]
  cases hc : s.state.closed with
  | true =>
    rw [if_pos rfl, ends_fail]
    exact .inr ⟨.closed hc, rfl⟩
  | false =>
    rw [if_neg Bool.false_ne_true, ends_pure, ends_bind]
    refine (ensureSession_ends s).mono ?_ ?_
    · rintro _ m ⟨hsession, hclosed, hopen, hmoves⟩
      have served : ∀ {t : Logged _}, Over m.state t.state → Served s t := by
        rintro t (ht | ⟨request, ht⟩)
        · refine ⟨hc, hsession, (congrArg Books.sessionOpen ht).trans hopen, ?_⟩
          rw [Moves, ht]
          exact hmoves
        · refine ⟨hc, hsession, (congrArg Books.sessionOpen ht).trans hopen, hmoves.tail ?_⟩
          rw [ht]
          exact .sent request (hclosed.trans hc) hopen
      exact (hf m).mono (fun _ _ h => served h) fun _ _ h => .inl (served h)
    · rintro e _ ⟨hs, he, rfl⟩
      exact .inr ⟨.unopened hc hs he, rfl⟩

omit [Transport τ] in
/-- A request is sent by one step of the transport, and what follows only tells and fails. -/
theorem over_transact {f : Metered τ → γ × Metered τ} {g : γ → Act (HttpClient (Metered τ)) β}
    {request : Post ⊕ Put} (s : Logged (HttpClient (Metered τ)))
    (hf : ∀ m, (f m).2.traffic = m.traffic ++ [.sent request]) (hg : ∀ c, Carries Still (g c)) :
    Ends (transact f >>= g) s (fun _ t => Over s.state t.state)
      (fun _ t => Over s.state t.state) := by
  rw [ends_bind, transact_ends]
  have sent : ∀ t : Logged (HttpClient (Metered τ)),
      t.state = { s.state with transport := (f s.state.transport).2 } →
        Over s.state t.state := by
    intro t ht
    refine .inr ⟨request, ?_⟩
    rw [ht, books, hf]
    rfl
  exact (hg _ _).mono (fun _ t ht => sent t ht) fun _ t ht => sent t ht

/-- Sending JSON is a call; a body that cannot be written ends it before anything is sent. -/
theorem request_ends (endpoint : String) (body : Json) (s : Logged (HttpClient (Metered τ))) :
    Ends (request endpoint body) s (fun _ t => Served s t)
      (fun e t => Served s t ∨ s.state.Unserved e ∧ t = s) := by
  refine call_ends s fun s => ?_
  rw [ends_bind, ends_look]
  dsimp only
  rw [ends_bind, ends_ofExcept]
  refine ⟨fun data _ => ?_, fun _ _ => .inl rfl⟩
  rw [ends_bind, ends_tell, ends_bind, ends_tell]
  refine over_transact _ (fun _ => rfl) fun reply => ?_
  match reply with
  | .error text => exact still_networkFault _ _
  | .ok ⟨_, .error text⟩ => exact still_networkFault _ _
  | .ok ⟨status, .ok text⟩ =>
    refine onward_still.bind still_tell fun _ => onward_still.bind (onward_still.ofExcept _) ?_
    intro value
    split
    · exact onward_still.bind (onward_still.ofExcept _) fun _ =>
        onward_still.bind still_tell fun _ => onward_still.fail _
    · exact onward_still.pure _

/-- So is sending the bytes of a part. -/
theorem uploadPart_ends (url : Json) (data : ByteArray) (s : Logged (HttpClient (Metered τ))) :
    Ends (uploadPart url data) s (fun _ t => Served s t)
      (fun e t => Served s t ∨ s.state.Unserved e ∧ t = s) := by
  refine call_ends s fun s => ?_
  rw [ends_bind, ends_look]
  refine over_transact _ (fun _ => rfl) fun reply => ?_
  match reply with
  | none => exact onward_still.fail _
  | some (.error text) => exact still_networkFault _ _
  | some (.ok ⟨status, text⟩) =>
    dsimp only
    split
    · cases text with
      | error text => exact still_networkFault _ _
      | ok text => exact onward_still.fail _
    · exact onward_still.pure _

/-- Whatever a call comes to, the connections come to where a client can bring them. -/
theorem moves_of_call {a : Act (HttpClient (Metered τ)) β}
    (h : ∀ s, Ends a s (fun _ t => Served s t)
    (fun e t => Served s t ∨ s.state.Unserved e ∧ t = s)) : Carries Moves a := by
  refine fun s => (h s).mono (fun _ _ h => h.moves) ?_
  rintro e t (h | ⟨-, rfl⟩)
  · exact h.moves
  · exact .refl

/-- A closed client turns a call down and stays as it is. -/
theorem error_of_closed {a : Act (HttpClient (Metered τ)) β} {s : Logged (HttpClient (Metered τ))}
    (h : Ends a s (fun _ t => Served s t) (fun e t => Served s t ∨ s.state.Unserved e ∧ t = s))
    (hc : s.state.closed = true) : a s = .error (.transport .closed .null) s := by
  have absurd : ∀ {t}, Served s t → False := fun h => nomatch hc.symm.trans h.closed
  refine eq_error_of_ends (h.mono (fun _ _ h => absurd h) ?_)
  rintro e t (h | ⟨hu, rfl⟩)
  · exact (absurd h).elim
  · cases hu with
    | closed => exact ⟨rfl, rfl⟩
    | unopened h => cases hc.symm.trans h

omit [Transport τ] in
theorem moves_change {f : HttpClient (Metered τ) → HttpClient (Metered τ)}
    (h : ∀ c, (f c).books = c.books) : Carries Moves (Act.change f) :=
  carries_change fun s => by rw [Moves, h]

theorem moves_close : Carries Moves (close : Act (HttpClient (Metered τ)) Unit) := fun s =>
  (close_ends s).mono
    (fun _ t ⟨withPool, ht⟩ => by
      rw [Moves, ht]
      exact .single (.shut _ _))
    fun _ _ h => h.elim

omit [Transport τ] in
/-- Closing a closed client with nothing open changes nothing. -/
theorem close_of_closed [Transport τ] {s : Logged (HttpClient τ)} (hc : s.state.closed = true)
    (hs : s.state.sessionOpen = false) (hp : s.state.poolOpen = false) : close s = .ok () s := by
  obtain ⟨⟨config, token, closed, sessionOpen, poolOpen, room, transport⟩, log⟩ := s
  cases hc
  cases hs
  cases hp
  rfl

end HttpClient

end RapidUpload
