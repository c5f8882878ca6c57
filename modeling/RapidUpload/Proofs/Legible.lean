import RapidUpload.Http.Client
import RapidUpload.Proofs.Confirmed
import RapidUpload.Proofs.Fitting

/-!
# Answers that can be read

The server may send any value.  Which of them are read is said here by their shape alone; all others
end a call in a fault that is not the library's own.

* `Answer.Legible`: an answer whose list of parts can be gone through, each part with a number.
* `Answer.Within`: an answer that keeps within the limits, as all do that were read.
* `Reply.Legible`: a reply that a request makes something of.
* `Reply.clear_answer`: what a request to create an upload makes of a reply shows which these are.
-/

namespace RapidUpload

/-- Where `P` holds there is a result, and elsewhere a fault that is not the library's own. -/
def Reading {β : Type} (x : Except Fault β) (P : Prop) : Prop :=
  match x with
  | .ok _ => P
  | .error e => e.isOwn = false ∧ ¬P

section Reading

variable {β γ : Type} {x : Except Fault β} {P Q : Prop}

theorem Reading.isOwn {e : Fault} (h : Reading x P) (hx : x = .error e) : e.isOwn = false := by
  subst hx
  exact h.1

theorem Reading.congr (h : Reading x P) (hPQ : P ↔ Q) : Reading x Q := by
  rwa [propext hPQ] at h

/-- Two steps are read where both are. -/
theorem Reading.bind {f : β → Except Fault γ} (h : Reading x P) (hf : ∀ b, Reading (f b) Q) :
    Reading (x >>= f) (P ∧ Q) := by
  cases x with
  | error e => exact ⟨h.1, fun hpq => h.2 hpq.1⟩
  | ok b =>
    have hb := hf b
    unfold Reading at hb ⊢
    change match f b with | .ok _ => P ∧ Q | .error e => e.isOwn = false ∧ ¬(P ∧ Q)
    split
    · rename_i hc
      rw [hc] at hb
      exact ⟨h, hb⟩
    · rename_i hc
      rw [hc] at hb
      exact ⟨hb.1, fun hpq => hb.2 hpq.2⟩

/-- What is made of a result can be made of it. -/
theorem Reading.bind_pure (h : Reading x P) (f : β → γ) :
    Reading (x >>= fun b => pure (f b)) P := by
  cases x with
  | ok b => exact h
  | error e => exact h

end Reading

/-! ### Lists of parts -/

namespace Part

/-- The number of a part, if the item is one, stands for an integer. -/
def Numbered (item : Json) : Prop :=
  item.isObj = true → ∃ n, ((item.get? "part_number").getD (.int 0)).integer = .ok n

/-- The value lists parts, or is empty. -/
def Listing : Json → Prop
  | .arr items => ∀ item ∈ items, Numbered item
  | .str _ | .obj _ => True
  | v => v.truthy = false

theorem reading_ofFields (fields : List (String × Json)) :
    Reading (ofFields fields) (Numbered (.obj fields)) := by
  unfold ofFields
  have hnumbered : Numbered (.obj fields) ↔
      ∃ n, ((Json.find? "part_number" fields).getD (.int 0)).integer = .ok n :=
    ⟨fun h => h rfl, fun h _ => h⟩
  rw [hnumbered]
  cases ((Json.find? "part_number" fields).getD (.int 0)).integer with
  | ok n => exact ⟨n, rfl⟩
  | error e => cases e <;> exact ⟨rfl, fun ⟨_, h⟩ => nomatch h⟩

theorem reading_ofItems (items : List Json) :
    Reading (ofItems items) (∀ item ∈ items, Numbered item) := by
  induction items with
  | nil => exact fun _ h => nomatch h
  | cons item items ih =>
    simp only [List.forall_mem_cons]
    cases item with
    | obj fields => exact (reading_ofFields fields).bind fun part => ih.bind_pure (part :: ·)
    | _ => exact ih.congr (and_iff_right fun h => nomatch h).symm

theorem reading_ofList (v : Json) : Reading (ofList v) (Listing v) := by
  cases v with
  | arr items => exact reading_ofItems items
  | str | obj => trivial
  | _ =>
    unfold ofList Listing
    dsimp only
    split
    · rename_i ht
      exact ⟨rfl, by simp [ht]⟩
    · rename_i ht
      exact Bool.not_eq_true _ ▸ ht

/-- No more parts are listed than there are items. -/
theorem length_ofItems {items : List Json} {parts : List Part} (h : ofItems items = .ok parts) :
    parts.length ≤ items.length := by
  induction items generalizing parts with
  | nil =>
    cases h
    exact Nat.le_refl 0
  | cons item items ih =>
    cases item with
    | obj fields =>
      unfold ofItems at h
      cases hpart : ofFields fields with
      | error e =>
        rw [hpart] at h
        cases h
      | ok part =>
        cases hparts : ofItems items with
        | error e =>
          rw [hpart, hparts] at h
          cases h
        | ok rest =>
          rw [hpart, hparts] at h
          cases h
          exact Nat.succ_le_succ (ih hparts)
    | _ => exact Nat.le_succ_of_le (ih h)

/-- The parts have numbers with texts where all that the items hold has. -/
theorem short_ofItems {items : List Json} {parts : List Part} (h : ofItems items = .ok parts)
    (hs : ∀ item ∈ items, item.isShort = true) : ∀ part ∈ parts, Integer.Short part.number := by
  induction items generalizing parts with
  | nil =>
    cases h
    exact fun _ h => nomatch h
  | cons item items ih =>
    obtain ⟨hitem, hitems⟩ := List.forall_mem_cons.mp hs
    cases item with
    | obj fields =>
      obtain ⟨part, hpart, h⟩ := bind_ok h
      obtain ⟨rest, hrest, h⟩ := bind_ok h
      cases h
      refine List.forall_mem_cons.mpr ⟨?_, ih hrest hitems⟩
      unfold ofFields at hpart
      split at hpart
      · cases hpart
      · rename_i n hn
        cases hpart
        refine Json.short_integer hn ?_
        cases hf : Json.find? "part_number" fields with
        | none => decide
        | some v => exact Json.isShortFields_iff.mp hitem _ (Json.mem_of_find? hf)
    | _ => exact ih h hitems

theorem short_ofList {v : Json} {parts : List Part} (h : ofList v = .ok parts)
    (hv : v.isShort = true) : ∀ part ∈ parts, Integer.Short part.number := by
  unfold ofList at h
  split at h
  · exact short_ofItems h (Json.isShortItems_iff.mp hv)
  · cases h
    exact fun _ h => nomatch h
  · cases h
    exact fun _ h => nomatch h
  · split at h <;> cases h
    exact fun _ h => nomatch h

theorem length_ofList {v : Json} {parts : List Part} {most : Nat} (h : ofList v = .ok parts)
    (hmost : ∀ items, v = .arr items → items.length ≤ most) : parts.length ≤ most := by
  unfold ofList at h
  split at h
  · rename_i items
    exact Nat.le_trans (length_ofItems h) (hmost items rfl)
  · cases h
    exact Nat.zero_le _
  · cases h
    exact Nat.zero_le _
  · split at h <;> cases h
    exact Nat.zero_le _

end Part

/-! ### Answers -/

/-- The value is none that holds answers, or its parts can be gone through. -/
def Answer.Legible (v : Json) : Prop :=
  v.isObj = true → Part.Listing (v.field "part_info_list")

theorem Answer.reading_ofJson (v : Json) : Reading (ofJson v) (Legible v) := by
  cases v with
  | obj fields =>
    refine Reading.congr ?_ (Iff.intro (fun h _ => h) fun h => h rfl)
    exact (Part.reading_ofList _).bind_pure _
  | _ => exact fun h => nomatch h

/-- An answer keeps within the limits: its ids nest no deeper than `room`, it has no more than
`most` parts, and their numbers and what it was read from have texts. -/
structure Answer.Within (room most : Nat) (a : Answer) : Prop where
  fileId : a.fileId.Fits room
  uploadId : a.uploadId.Fits room
  listed : a.parts.length ≤ most
  numbered : ∀ part ∈ a.parts, Integer.Short part.number
  told : a.raw.isShort = true

/-- An answer does where the value does that it was read from. -/
theorem Answer.within_ofJson {v : Json} {answer : Answer} {room most : Nat}
    (h : ofJson v = .ok answer) (hv : v.Fits (room + 1))
    (hmost : ∀ items, v.field "part_info_list" = .arr items → items.length ≤ most) :
    answer.Within room most := by
  cases v with
  | obj fields =>
    obtain ⟨parts, hparts, h⟩ := bind_ok h
    cases h
    exact ⟨(hv.field "file_id").orElse (.str ""), (hv.field "upload_id").orElse (.str ""),
      Part.length_ofList hparts hmost, Part.short_ofList hparts (hv.field "part_info_list").short,
      hv.short⟩
  | _ =>
    cases h
    exact ⟨.str "", .str "", Nat.zero_le _, fun _ h => (nomatch h), rfl⟩

theorem Answer.Within.mono {answer : Answer} {room most most' : Nat} (h : answer.Within room most)
    (hle : most ≤ most') : answer.Within room most' :=
  ⟨h.fileId, h.uploadId, Nat.le_trans h.listed hle, h.numbered, h.told⟩

/-- With the session of another answer it still does. -/
theorem Answer.Within.withSession {answer : Answer} {previous : Option Answer} {room most : Nat}
    (h : answer.Within room most) (hp : ∀ p ∈ previous, p.Within room most) :
    (Negotiator.withSession answer previous).Within room most := by
  unfold Negotiator.withSession
  split
  · rename_i p _
    have hp := hp p rfl
    split
    · refine ⟨hp.fileId, hp.uploadId, ?_, ?_, h.told⟩
      · dsimp only
        split
        · exact hp.listed
        · exact h.listed
      · dsimp only
        split
        · exact hp.numbered
        · exact h.numbered
    · exact h
  · exact h

theorem Answer.Within.session {answer : Answer} {room most : Nat} (h : answer.Within room most) :
    ∀ session ∈ answer.session, session.fileId.Fits room ∧ session.uploadId.Fits room := by
  intro session hs
  unfold Answer.session at hs
  split at hs
  · cases hs
    exact ⟨h.fileId, h.uploadId⟩
  · cases hs

/-- So does what a negotiation comes to. -/
structure Outcome.Within (room most : Nat) (out : Outcome) : Prop where
  session : ∀ session ∈ out.session, session.fileId.Fits room ∧ session.uploadId.Fits room
  listed : out.parts.length ≤ most
  numbered : ∀ part ∈ out.parts, Integer.Short part.number

namespace ErrorCode

theorem reading_explain (code : Json) :
    Reading (explain code) (code.truthy = true → code.isScalar = true) := by
  unfold explain
  split
  · rename_i ht
    exact fun h => by simp [h] at ht
  · rename_i ht
    have ht : code.truthy = true := by simpa using ht
    cases code with
    | arr | obj => exact ⟨rfl, fun h => nomatch h ht⟩
    | _ => exact fun _ => rfl

theorem reading_isChallenge (code : Json) : Reading (isChallenge code) (code.isScalar = true) := by
  cases code with
  | arr | obj => exact ⟨rfl, fun h => nomatch h⟩
  | _ => rfl

end ErrorCode

namespace Rejection

/-- The value is none that holds a code, or its message or its code can be told. -/
def Legible (v : Json) : Prop :=
  v.isObj = true → (v.field "message").truthy = false → (v.field "code").truthy = true →
    (v.field "code").isScalar = true

theorem reading_ofAnswer (status : Int) (v : Json) : Reading (ofAnswer status v) (Legible v) := by
  unfold ofAnswer make Legible
  cases hobj : v.isObj with
  | false => exact fun h => nomatch h
  | true =>
    rw [if_pos rfl]
    cases htext : (v.field "message").truthy with
    | true => exact fun _ h => nomatch h
    | false =>
      refine Reading.congr ?_ (Iff.intro (fun h _ _ => h) fun h => h rfl rfl)
      exact (ErrorCode.reading_explain _).bind_pure _

/-- A rejection has the code of an object that was sent, and none otherwise. -/
theorem ofAnswer_ok {status : Int} {v : Json} {r : Rejection} (h : ofAnswer status v = .ok r) :
    r.code = (if v.isObj then v.field "code" else .null) ∧ r.payload = v := by
  have made : ∀ {code text}, make code text status v = .ok r → r.code = code ∧ r.payload = v := by
    intro code text h
    unfold make at h
    split at h
    · cases h
      exact ⟨rfl, rfl⟩
    · cases he : ErrorCode.explain code <;> rw [he] at h <;> cases h
      exact ⟨rfl, rfl⟩
  unfold ofAnswer at h
  split at h
  · rename_i hobj
    rw [if_pos hobj]
    exact made h
  · rename_i hobj
    rw [if_neg hobj]
    exact made h

end Rejection

theorem HttpClient.reading_decode (room : Nat) (text : String) :
    Reading (decode room text) (∃ v, decode room text = .ok v) := by
  unfold decode
  split
  · exact ⟨_, rfl⟩
  · cases Json.read room text with
    | ok v => exact ⟨v, rfl⟩
    | error e => cases e <;> first | exact ⟨_, rfl⟩ | exact ⟨rfl, fun ⟨_, h⟩ => nomatch h⟩

/-- What is decoded keeps within the limits of reading. -/
theorem HttpClient.fits_decode {room : Nat} {text : String} {v : Json}
    (h : decode room text = .ok v) : v.Fits (room + 1) := by
  unfold decode at h
  split at h
  · cases h
    exact .obj fun _ h => nomatch h
  · split at h
    · cases h
      exact (Json.fits_read ‹_›).mono (Nat.le_succ room)
    · cases h
      exact .str text
    · cases h
    · cases h

/-! ### Requests to create an upload -/

/-- Where `P` holds there is a result or a fault of the library's own, and elsewhere another
fault. -/
def Candid {β : Type} (x : Except Fault β) (P : Prop) : Prop :=
  match x with
  | .ok _ => P
  | .error e => e.isOwn = true ↔ P

section Candid

variable {β : Type} {x : Except Fault β} {P Q : Prop}

theorem Candid.congr (h : Candid x P) (hPQ : P ↔ Q) : Candid x Q := by
  rwa [propext hPQ] at h

/-- A fault in reading is none of the library's own. -/
theorem Reading.candid (h : Reading x P) : Candid x P := by
  cases x with
  | ok b => exact h
  | error e => exact iff_of_false (by rw [h.1]; decide) h.2

theorem Candid.unique (h : Candid x P) (h' : Candid x Q) : P ↔ Q := by
  cases x with
  | ok b => exact iff_of_true h h'
  | error e => exact h.symm.trans h'

end Candid

/-- In how the request ended stands a reply that can be read, or a fault of the library's own. -/
def CreateReply.Clear (x : Except Fault Json) : Prop :=
  (of x).isSome = true ∨ ∃ e, Verdict.of x = .error e ∧ e.isOwn = true

/-- There is an outcome within the limits or a fault of the library's own where `P` holds, and
elsewhere another fault. -/
def Outcome.Settles (room most : Nat) (x : Except Fault Outcome) (P : Prop) : Prop :=
  Candid x P ∧ ∀ out, x = .ok out → out.Within room most

theorem Outcome.Settles.congr {room most : Nat} {x : Except Fault Outcome} {P Q : Prop}
    (h : Settles room most x P) (hPQ : P ↔ Q) : Settles room most x Q :=
  ⟨h.1.congr hPQ, h.2⟩

namespace CreateReply

variable {x : Except Fault Json} {answer : Answer} {challenge : Challenge} {e : Fault}

theorem clear_accepted (hv : Verdict.of x = .ok (.accepted answer)) : Clear x :=
  .inl (by rw [of_accepted hv]; rfl)

theorem clear_challenged (hv : Verdict.of x = .ok (.challenged challenge))
    (ha : Answer.ofJson challenge.payload = .ok answer) : Clear x :=
  .inl (by rw [of_challenged hv ha]; rfl)

theorem clear_error (hv : Verdict.of x = .error e) : Clear x ↔ e.isOwn = true := by
  have hnone : of x = none := by rw [of, hv]
  constructor
  · rintro (h | ⟨e', he, h⟩)
    · rw [hnone] at h
      cases h
    · cases hv.symm.trans he
      exact h
  · exact fun h => .inr ⟨e, hv, h⟩

/-- A challenge that cannot be read is no clear reply, and its fault is not the library's own. -/
theorem candid_challenged (hv : Verdict.of x = .ok (.challenged challenge)) :
    Candid (Answer.ofJson challenge.payload) (Clear x) := by
  cases ha : Answer.ofJson challenge.payload with
  | ok answer => exact clear_challenged hv ha
  | error e =>
    have hown := (Answer.reading_ofJson _).isOwn ha
    refine iff_of_false (by rw [hown]; decide) ?_
    rintro (h | ⟨e', he, -⟩)
    · simp only [of, hv, ha] at h
      cases h
    · cases hv.symm.trans he

/-- An answer is clear by its parts. -/
theorem clear_ok (j : Json) : Clear (.ok j) ↔ Answer.Legible j := by
  have hread := Answer.reading_ofJson j
  cases ha : Answer.ofJson j with
  | ok answer =>
    have hv : Verdict.of (.ok j) = .ok (.accepted answer) := by rw [Verdict.of, ha]; rfl
    rw [ha] at hread
    exact iff_of_true (clear_accepted hv) hread
  | error e =>
    have hv : Verdict.of (.ok j) = .error e := by rw [Verdict.of, ha]; rfl
    rw [ha] at hread
    exact (clear_error hv).trans (iff_of_false (by rw [hread.1]; decide) hread.2)

/-- A refusal is clear by its code, and for a challenge by its parts. -/
theorem clear_rejected (r : Rejection) : Clear (.error (.rejected r)) ↔
    r.code.isScalar = true ∧
      (r.code = .str ErrorCode.preHashMatched → Answer.Legible r.payload) := by
  have hscalar := ErrorCode.reading_isChallenge r.code
  cases hc : ErrorCode.isChallenge r.code with
  | error e =>
    have hv : Verdict.of (.error (.rejected r)) = .error e := by rw [Verdict.of, hc]
    rw [hc] at hscalar
    exact (clear_error hv).trans (iff_of_false (by rw [hscalar.1]; decide) fun h => hscalar.2 h.1)
  | ok challenges =>
    rw [hc] at hscalar
    cases challenges with
    | true =>
      have hv : Verdict.of (.error (.rejected r)) = .ok (.challenged ⟨r.code, r.payload⟩) := by
        rw [Verdict.of, hc]
      refine ((candid_challenged hv).unique (Answer.reading_ofJson r.payload).candid).trans ?_
      exact ⟨fun h => ⟨hscalar, fun _ => h⟩, fun h => h.2 (ErrorCode.isChallenge_ok hc)⟩
    | false =>
      have hv : Verdict.of (.error (.rejected r)) = .error (.rejected r) := by rw [Verdict.of, hc]
      refine (clear_error hv).trans (iff_of_true rfl ⟨hscalar, fun hmatched => ?_⟩)
      rw [hmatched] at hc
      cases hc

/-- A fault that is not the library's own is not clear. -/
theorem not_clear (h : e.isOwn = false) : ¬Clear (.error e) := by
  have hv : Verdict.of (.error e) = .error e := by
    cases e with
    | rejected r => cases h
    | _ => rfl
  rw [clear_error hv, h]
  decide

/-- The reply in how the request ended keeps within the limits. -/
def Within (room most : Nat) (x : Except Fault Json) : Prop :=
  ∀ reply, of x = some reply → reply.answer.Within room most

variable {room most : Nat}

/-- A session that is missing is a fault of the library's own. -/
theorem settles_into (supply : Supply) (h : Clear x) (hw : answer.Within room most) :
    Outcome.Settles room most (Outcome.into answer supply) (Clear x) := by
  unfold Outcome.into
  cases hs : answer.session with
  | none =>
    dsimp only
    rw [MismatchCause.fault_of_short _ hw.told]
    exact ⟨iff_of_true rfl h, fun _ h => nomatch h⟩
  | some session =>
    have hfits := hw.session session hs
    dsimp only
    rw [Json.told_of_short hfits.1.short]
    refine ⟨h, ?_⟩
    rintro _ ⟨⟩
    refine ⟨?_, hw.listed, hw.numbered⟩
    rintro _ ⟨⟩
    exact hfits

/-- An upload that needs no bytes transfers no parts. -/
theorem settles_rapid (stage : Stage) (h : Clear x) (hw : answer.Within room most) :
    Outcome.Settles room most (.ok ⟨stage, answer, answer.session, [], none⟩) (Clear x) := by
  refine ⟨h, ?_⟩
  rintro _ ⟨⟩
  exact ⟨hw.session, Nat.zero_le _, fun _ h => nomatch h⟩

theorem settles_sample (h : Clear x) (hw : answer.Within room most) :
    Outcome.Settles room most (Outcome.ofSample answer) (Clear x) := by
  unfold Outcome.ofSample
  split
  · exact settles_rapid _ h hw
  · exact settles_into .replay h hw

/-- What the verdict on the full hash comes to shows whether the reply is clear. -/
theorem settles_proof {previous : Option Answer} (hw : Within room most x)
    (hp : ∀ p ∈ previous, p.Within room most) :
    Outcome.Settles room most (Verdict.of x >>= Outcome.ofProof previous) (Clear x) := by
  cases hv : Verdict.of x with
  | error e => exact ⟨(clear_error hv).symm, fun _ h => nomatch h⟩
  | ok verdict =>
    change Outcome.Settles room most (Outcome.ofProof previous verdict) (Clear x)
    cases verdict with
    | accepted answer =>
      have hw := hw _ (of_accepted hv)
      unfold Outcome.ofProof
      dsimp only
      split
      · exact settles_rapid _ (clear_accepted hv) hw
      · exact settles_into .spill (clear_accepted hv) (hw.withSession hp)
    | challenged challenge =>
      have hread := candid_challenged hv
      have hproof : Outcome.ofProof previous (.challenged challenge) =
          Answer.ofJson challenge.payload >>= fun answer =>
            Outcome.into (Negotiator.withSession answer previous) .spill := rfl
      rw [hproof]
      cases ha : Answer.ofJson challenge.payload with
      | error e =>
        rw [ha] at hread
        exact ⟨hread, fun _ h => nomatch h⟩
      | ok answer =>
        have hw := hw _ (of_challenged hv ha)
        exact settles_into .spill (clear_challenged hv ha) (hw.withSession hp)

end CreateReply

namespace Handshake

variable {rapid : Bool} {attempts : List Attempt} {room most : Nat}

/-- What settles a negotiation shows whether all replies are clear. -/
theorem settles (h : Handshake rapid attempts)
    (hw : ∀ a ∈ attempts, CreateReply.Within room most a.result) {out : Except Fault Outcome}
    (hx : settle rapid (attempts.map Attempt.result) = some out) :
    Outcome.Settles room most out (∀ a ∈ attempts, CreateReply.Clear a.result) := by
  cases h with
  | none => cases rapid <;> cases hx
  | @sample a h =>
    subst h
    rw [List.forall_mem_singleton] at hw ⊢
    cases hv : Verdict.of a.result with
    | error e =>
      cases (settle_error hv).symm.trans hx
      exact ⟨(CreateReply.clear_error hv).symm, fun _ h => nomatch h⟩
    | ok verdict =>
      cases verdict with
      | accepted answer =>
        cases (settle_accepted hv).symm.trans hx
        exact CreateReply.settles_sample (CreateReply.clear_accepted hv)
          (hw _ (CreateReply.of_accepted hv))
      | challenged challenge =>
        have hread := CreateReply.candid_challenged hv
        cases ha : Answer.ofJson challenge.payload with
        | error e =>
          cases (settle_unreadable hv ha).symm.trans hx
          rw [ha] at hread
          exact ⟨hread, fun _ h => nomatch h⟩
        | ok answer => cases (settle_challenged hv ha).symm.trans hx
  | full h =>
    subst h
    rw [List.forall_mem_singleton] at hw ⊢
    cases Option.some.inj hx
    exact CreateReply.settles_proof hw fun _ h => nomatch h
  | both h _ hc hp =>
    subst h
    cases (settle_both hc hp).symm.trans hx
    rw [List.forall_mem_cons, List.forall_mem_singleton] at hw ⊢
    have hprevious := hw.1 _ (CreateReply.of_challenged hc hp)
    refine (CreateReply.settles_proof hw.2 ?_).congr
      (and_iff_right (CreateReply.clear_challenged hc hp)).symm
    rintro _ ⟨⟩
    exact hprevious

/-- All replies but the last are clear, and where nothing is settled that one is too. -/
theorem clear (h : Handshake rapid attempts) :
    (∀ a ∈ attempts.dropLast, CreateReply.Clear a.result) ∧
      (settle rapid (attempts.map Attempt.result) = .none →
        ∀ a ∈ attempts, CreateReply.Clear a.result) := by
  cases h with
  | none => exact ⟨fun _ h => (nomatch h), fun _ _ h => nomatch h⟩
  | @sample a h =>
    subst h
    refine ⟨fun _ h => (nomatch h), fun hx => List.forall_mem_singleton.mpr ?_⟩
    cases hv : Verdict.of a.result with
    | error e => cases (settle_error hv).symm.trans hx
    | ok verdict =>
      cases verdict with
      | accepted answer => exact CreateReply.clear_accepted hv
      | challenged challenge =>
        cases ha : Answer.ofJson challenge.payload with
        | error e => cases (settle_unreadable hv ha).symm.trans hx
        | ok answer => exact CreateReply.clear_challenged hv ha
  | full h =>
    subst h
    exact ⟨fun _ h => (nomatch h), fun hx => by cases hx⟩
  | both h _ hc hp =>
    subst h
    refine ⟨List.forall_mem_singleton.mpr (CreateReply.clear_challenged hc hp), fun hx => ?_⟩
    cases (settle_both hc hp).symm.trans hx

end Handshake

/-! ### Replies -/

namespace Reply

/-- What a request makes of a reply. -/
def answer (room : Nat) : Reply → Except Fault Json
  | .error text | .ok ⟨_, .error text⟩ => .error (.transport (.network text) .null)
  | .ok ⟨status, .ok text⟩ => do
    let v ← HttpClient.decode room text
    if 400 ≤ status then
      let r ← Rejection.ofAnswer status v
      .error (.rejected r)
    else return v

/-- A request makes something of the reply: there is none, or it has a value of a shape that can be
dealt with. What creates an upload needs more of it. -/
def Legible (room : Nat) (creates : Bool) : Reply → Prop
  | .ok ⟨status, .ok text⟩ => ∃ v, HttpClient.decode room text = .ok v ∧
      if 400 ≤ status then
        if creates then
          v.isObj = true → (v.field "code").isScalar = true ∧
            (v.field "code" = .str ErrorCode.preHashMatched → Answer.Legible v)
        else Rejection.Legible v
      else creates = true → Answer.Legible v
  | _ => True

/-- The number of parts that the reply lists. -/
def listed (room : Nat) : Reply → Nat
  | .ok ⟨_, .ok text⟩ =>
    match HttpClient.decode room text with
    | .ok v =>
      match v.field "part_info_list" with
      | .arr items => items.length
      | _ => 0
    | .error _ => 0
  | _ => 0

variable {room : Nat} {status : Int} {text : String} {v : Json}

theorem answer_of_decode (h : HttpClient.decode room text = .ok v) :
    answer room (.ok ⟨status, .ok text⟩) =
      if 400 ≤ status then Rejection.ofAnswer status v >>= fun r => .error (.rejected r)
      else .ok v := by
  unfold answer
  dsimp only
  rw [h]
  rfl

theorem answer_of_decode_error {e : Fault} (h : HttpClient.decode room text = .error e) :
    answer room (.ok ⟨status, .ok text⟩) = .error e := by
  unfold answer
  dsimp only
  rw [h]
  rfl

theorem legible_of_decode {creates : Bool} (h : HttpClient.decode room text = .ok v) :
    Legible room creates (.ok ⟨status, .ok text⟩) ↔
      if 400 ≤ status then
        if creates then
          v.isObj = true → (v.field "code").isScalar = true ∧
            (v.field "code" = .str ErrorCode.preHashMatched → Answer.Legible v)
        else Rejection.Legible v
      else creates = true → Answer.Legible v :=
  ⟨fun ⟨_, hw, hl⟩ => Except.ok.inj (h.symm.trans hw) ▸ hl, fun hl => ⟨v, h, hl⟩⟩

theorem not_legible {creates : Bool} {e : Fault} (h : HttpClient.decode room text = .error e) :
    ¬Legible room creates (.ok ⟨status, .ok text⟩) := by
  rintro ⟨_, hw, -⟩
  cases h.symm.trans hw

/-- A refusal is clear by its code, and for a challenge by its parts. -/
theorem clear_refused (status : Int) (v : Json) :
    CreateReply.Clear (Rejection.ofAnswer status v >>= fun r => .error (.rejected r)) ↔
      (v.isObj = true → (v.field "code").isScalar = true ∧
        (v.field "code" = .str ErrorCode.preHashMatched → Answer.Legible v)) := by
  have hread := Rejection.reading_ofAnswer status v
  cases hr : Rejection.ofAnswer status v with
  | error e =>
    rw [hr] at hread
    exact iff_of_false (CreateReply.not_clear hread.1) fun h =>
      hread.2 fun hobj _ _ => (h hobj).1
  | ok r =>
    obtain ⟨hcode, hpayload⟩ := Rejection.ofAnswer_ok hr
    refine (CreateReply.clear_rejected r).trans ?_
    rw [hcode, hpayload]
    cases hobj : v.isObj with
    | true => exact ⟨fun h _ => h, fun h => h rfl⟩
    | false => exact iff_of_true ⟨rfl, fun h => nomatch h⟩ fun h => nomatch h

/-- **A reply that can be read** shows in what a request to create an upload makes of it. -/
theorem clear_answer (reply : Reply) :
    CreateReply.Clear (reply.answer room) ↔ reply.Legible room true := by
  match reply with
  | .error text => exact iff_of_true ((CreateReply.clear_error rfl).mpr rfl) trivial
  | .ok ⟨_, .error text⟩ => exact iff_of_true ((CreateReply.clear_error rfl).mpr rfl) trivial
  | .ok ⟨status, .ok text⟩ =>
    cases hd : HttpClient.decode room text with
    | error e =>
      have hown := (HttpClient.reading_decode room text).isOwn hd
      rw [answer_of_decode_error hd]
      exact iff_of_false (CreateReply.not_clear hown) (not_legible hd)
    | ok v =>
      rw [answer_of_decode hd, legible_of_decode hd]
      split
      · exact clear_refused status v
      · exact (CreateReply.clear_ok v).trans ⟨fun h _ => h, fun h => h rfl⟩

/-- So it does in what another request makes of it. -/
theorem candid_answer (reply : Reply) : Candid (reply.answer room) (reply.Legible room false) := by
  match reply with
  | .error text => exact iff_of_true rfl trivial
  | .ok ⟨_, .error text⟩ => exact iff_of_true rfl trivial
  | .ok ⟨status, .ok text⟩ =>
    cases hd : HttpClient.decode room text with
    | error e =>
      have hown := (HttpClient.reading_decode room text).isOwn hd
      rw [answer_of_decode_error hd]
      exact iff_of_false (by rw [hown]; decide) (not_legible hd)
    | ok v =>
      rw [answer_of_decode hd, legible_of_decode hd]
      split
      · have hread := Rejection.reading_ofAnswer status v
        cases hr : Rejection.ofAnswer status v with
        | error e =>
          rw [hr] at hread
          exact iff_of_false (by rw [hread.1]; decide) hread.2
        | ok r =>
          rw [hr] at hread
          exact iff_of_true rfl hread
      · exact fun h => nomatch h

/-- What a request gives is the value of its reply. -/
theorem decode_of_answer {reply : Reply} (h : reply.answer room = .ok v) :
    ∃ status text, reply = .ok ⟨status, .ok text⟩ ∧ HttpClient.decode room text = .ok v := by
  match reply with
  | .ok ⟨status, .ok text⟩ =>
    refine ⟨status, text, rfl, ?_⟩
    cases hd : HttpClient.decode room text with
    | error e => cases (answer_of_decode_error hd).symm.trans h
    | ok w =>
      rw [answer_of_decode hd] at h
      split at h
      · cases hr : Rejection.ofAnswer status w <;> rw [hr] at h <;> cases h
      · exact h

/-- What it is refused with is the value too. -/
theorem decode_of_rejected {reply : Reply} {r : Rejection}
    (h : reply.answer room = .error (.rejected r)) : ∃ status text,
      reply = .ok ⟨status, .ok text⟩ ∧ HttpClient.decode room text = .ok r.payload := by
  match reply with
  | .ok ⟨status, .ok text⟩ =>
    refine ⟨status, text, rfl, ?_⟩
    cases hd : HttpClient.decode room text with
    | error e =>
      cases (answer_of_decode_error hd).symm.trans h
      cases (HttpClient.reading_decode room text).isOwn hd
    | ok w =>
      rw [answer_of_decode hd] at h
      split at h
      · cases hr : Rejection.ofAnswer status w with
        | error e =>
          rw [hr] at h
          cases h
          cases (Rejection.reading_ofAnswer status w).isOwn hr
        | ok r' =>
          rw [hr] at h
          cases h
          rw [(Rejection.ofAnswer_ok hr).2]
      · cases h

theorem listed_of_decode (h : HttpClient.decode room text = .ok v) {items : List Json}
    (hitems : v.field "part_info_list" = .arr items) :
    listed room (.ok ⟨status, .ok text⟩) = items.length := by
  simp only [listed, h, hitems]

/-- An answer keeps within the limits of reading, and has no more parts than the reply lists. -/
theorem within_answer (reply : Reply) :
    CreateReply.Within room (reply.listed room) (reply.answer room) := by
  intro r hr
  rcases CreateReply.verdict_of hr with ⟨hv, -⟩ | ⟨challenge, hv, ha, -⟩
  · obtain ⟨j, hj, ha⟩ := Verdict.of_accepted hv
    obtain ⟨status, text, rfl, hd⟩ := decode_of_answer hj
    exact Answer.within_ofJson ha (HttpClient.fits_decode hd) fun items hitems =>
      Nat.le_of_eq (listed_of_decode hd hitems).symm
  · obtain ⟨rejection, hj, -, rfl⟩ := Verdict.of_challenged hv
    obtain ⟨status, text, rfl, hd⟩ := decode_of_rejected hj
    exact Answer.within_ofJson ha (HttpClient.fits_decode hd) fun items hitems =>
      Nat.le_of_eq (listed_of_decode hd hitems).symm

end Reply

end RapidUpload
