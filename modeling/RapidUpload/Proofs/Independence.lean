import RapidUpload.Proofs.Lockstep
import RapidUpload.Proofs.Sent

/-!
# What uploads do not depend on

Two streams that deliver one content go in step however they split it, so an upload does not depend
on the split.  And a service goes in step with itself when it is watched, so watching an upload
changes nothing.

* `Concur limit r r'`: two streams deliver one content.
* `Coordinator.upload_withOrigin`: uploads of one content end in the same.
* `Coordinator.watch_withOrigin`: and make the same calls.
* `Coordinator.watch_upload`: a watched upload ends as it does unwatched.
-/

namespace RapidUpload

open Step

variable {ρ π α : Type}

/-! ### One content in two splits -/

/-- Two streams deliver one content. -/
def Concur [Reader ρ] [Reader π] (limit : Nat) (r : ρ) (r' : π) : Prop :=
  ∃ content, Delivers limit r content ∧ Delivers limit r' content

/-- The largest count an upload reads from its stream. -/
def UploadConfig.largestAsk (config : UploadConfig) : Nat :=
  max (max config.partSize.bytes config.sampler.budget) Spill.copySize

section Streams

variable [Reader ρ] [Reader π] {limit : Nat}

theorem inStep_readUpTo {n : Nat} (hn : n ≤ limit) :
    InStep Eq (Concur limit) (Reader.readUpTo n : Step ρ ByteArray)
      (Reader.readUpTo n : Step π ByteArray) := by
  rintro r r' ⟨content, h, h'⟩
  have hfail : ∀ {σ : Type} (e : Fault) (s : σ), limit < n → False := fun _ _ hlt => by omega
  refine .of_ends ((readUpTo_ends h).mono (fun _ _ h => h) hfail)
    ((readUpTo_ends h').mono (fun _ _ h => h) hfail) ?_
  rintro bytes bytes' s s' ⟨rfl, hs⟩ ⟨rfl, hs'⟩
  exact ⟨rfl, _, hs, hs'⟩

theorem concur_replay {r : Replay ρ} {r' : Replay π} (h : Stacked (Concur limit) r r') :
    Concur limit r r' := by
  obtain ⟨content, hr, hr'⟩ := h.inner
  refine ⟨_, delivers_replay hr, ?_⟩
  rw [h.buffer, h.position]
  exact delivers_replay hr'

/-- What is absorbed from either of two such streams is the same. -/
theorem alike_absorb (hl : Spill.copySize ≤ limit) {r : ρ} {r' : π} (h : Concur limit r r')
    {spill : Spill} (hs : spill.handle = none) (log : Array Log.Line) :
    Alike Eq (Told (Both (Concur limit) Eq)) (Spill.absorb ⟨(r, spill), log⟩)
      (Spill.absorb ⟨(r', spill), log⟩) := by
  have hmade := Spill.create_ends spill log
  cases hc : Spill.create ⟨spill, log⟩ with
  | error e t =>
    -- without a file neither stream is read
    rw [Spill.absorb_of_error r hs hc, Spill.absorb_of_error r' hs hc]
    exact .error e (.mk ⟨h, rfl⟩ _)
  | ok _ t =>
    obtain ⟨made, -, -, hmade, -⟩ := ends_of_ok hmade hc
    obtain ⟨_, log'⟩ := t
    dsimp only at hmade
    subst hmade
    obtain ⟨content, hd, hd'⟩ := h
    -- both are taken to their ends, and what was taken is the content
    refine .of_ends
      ((Spill.absorb_of_ok r hs hc).mono (fun _ _ h => h) fun _ _ hlt => Nat.not_lt.mpr hl (hlt hd))
      ((Spill.absorb_of_ok r' hs hc).mono (fun _ _ h => h)
        fun _ _ hlt => Nat.not_lt.mpr hl (hlt hd')) ?_
    rintro hasher hasher' ⟨⟨r₁, s₁⟩, log₁⟩ ⟨⟨r₂, s₂⟩, log₂⟩ ⟨taken, hh, hst, hlog, hall⟩
      ⟨taken', hh', hst', hlog', hall'⟩
    obtain ⟨rfl, hr⟩ := hall hd
    obtain ⟨rfl, hr'⟩ := hall' hd'
    dsimp only at hst hst' hlog hlog'
    subst hh hh' hst hst' hlog hlog'
    exact ⟨rfl, .mk ⟨⟨_, hr, hr'⟩, rfl⟩ _⟩

/-- **Streams of one content go in step**, whatever is read from them. -/
theorem streams_concur {config : UploadConfig} (hl : config.largestAsk ≤ limit) :
    Streams True config (Concur limit : ρ → π → Prop) (Concur limit) where
  sample := inStep_readUpTo (by unfold UploadConfig.largestAsk at hl; omega)
  replay := concur_replay
  slice := inStep_readUpTo (by unfold UploadConfig.largestAsk at hl; omega)
  absorb h hs hlog := by
    cases hlog trivial
    exact alike_absorb (by unfold UploadConfig.largestAsk at hl; omega) h hs _

end Streams

/-! ### One upload from two sources -/

theorem services_eq [DriveService α] : Services (Eq : α → α → Prop) where
  accessToken h := by rw [h]
  createUpload _ := inStep_self _
  uploadPart _ _ := inStep_self _
  completeUpload _ _ _ := inStep_self _

theorem tellers_eq : ∀ progress : Option (Progress α), Tellers True Eq progress progress
  | none => .none
  | some _ => .some fun _ => inStep_self _

theorem Site.eq_of_match {s t : Logged (Site α)} (h : Told (Site.Match Eq) s t) : s = t := by
  obtain ⟨⟨hservice, hdisk⟩, hlog⟩ := h
  rename_i s t _ _
  cases s
  cases t
  cases hservice
  cases hdisk
  cases hlog trivial
  rfl

/-- The same call for another origin. -/
def UploadCall.withOrigin (call : UploadCall ρ α) (o : Origin π) : UploadCall π α :=
  { call with origin := o }

namespace Coordinator

variable [Reader ρ] [Reader π] [DriveService α]

/-- **An upload does not depend on how its source splits the content.**  From two sources that go
by one name and size and read as one content it ends in the same, and leaves the same behind. -/
theorem upload_withOrigin (c : Coordinator) (call : UploadCall ρ α) {o : Origin π}
    {content : ByteArray}
    (hlabel : o.label call.name call.size = call.origin.label call.name call.size)
    (h : call.origin.Reads c.config.largestAsk content)
    (h' : o.Reads c.config.largestAsk content) (s : Logged (Site α)) :
    c.upload (call.withOrigin o) s = c.upload call s := by
  obtain ⟨stream, hopen⟩ := h.opens
  obtain ⟨stream', hopen'⟩ := h'.opens
  have hcall : (call.withOrigin o).Match True (Concur c.config.largestAsk) Eq call := by
    refine ⟨rfl, rfl, tellers_eq _, fun disk s t hst => ?_⟩
    show Alike _ _ (Source.resolve disk call.name call.size o s) _
    rw [hopen.resolve, hopen'.resolve, hlabel]
    exact .ok ⟨⟨content, hopen'.delivers h', hopen.delivers h⟩, rfl⟩ hst
  have halike := upload_inStep (streams_concur (Nat.le_refl _)) services_eq hcall s s
    (.mk ⟨rfl, rfl⟩ s.log)
  exact (halike.mono fun _ _ h => Site.eq_of_match h).eq

/-- **Nor do its calls.**  From two such sources an upload makes the same calls, with the same bytes
and in the same order, and ends in one report or one fault. -/
theorem watch_withOrigin (c : Coordinator) (call : UploadCall ρ α) {o : Origin π}
    {content : ByteArray}
    (hlabel : o.label call.name call.size = call.origin.label call.name call.size)
    (h : call.origin.Reads c.config.largestAsk content)
    (h' : o.Reads c.config.largestAsk content) (s : Logged (Site α)) :
    c.watch (call.withOrigin o) s = c.watch call s := by
  have hupload := c.upload_withOrigin call.watched (o := o) hlabel h h'
    ⟨⟨⟨s.state.service, []⟩, s.state.disk⟩, s.log⟩
  unfold watch
  rw [← hupload]
  rfl

open Rehearsal in
/-- One byte at a time or all from memory, the parts are the same. -/
theorem watch_withOrigin_pair :
    singles.watch (pairCall.withOrigin (.bytes pair.bytes : Origin Stream)) (listing [2, 1]) =
        singles.watch pairCall (listing [2, 1]) ∧
      (Event.puts (singles.watch pairCall (listing [2, 1])).2).map Prod.snd =
        [⟨#[1]⟩, ⟨#[2]⟩] := by
  have hbytes : (Origin.bytes pair.bytes : Origin Stream).Reads singles.config.largestAsk
      pair.bytes := ⟨rfl, by decide⟩
  exact ⟨watch_withOrigin singles pairCall (o := .bytes pair.bytes) rfl (reads_pair _) hbytes
    (listing [2, 1]), by decide +kernel⟩

end Coordinator

/-! ### One upload watched and unwatched -/

section Absorbing

variable {told : Prop}

theorem Spill.inStep_create : InStep Eq (Beside told Eq) create create := by
  unfold create
  refine (inStep_refl _).quiet.bind ?_
  rintro temp _ rfl
  refine (inStep_refl _).quiet.bind fun _ _ _ => inStep_look.bind ?_
  rintro s _ rfl
  exact inStep_tell _ _ _

/-- What is absorbed does not depend on the lines told before. -/
theorem Spill.inStep_absorb [Reader ρ] :
    InStep Eq (Beside told Eq) (absorb : Act (ρ × Spill) (Hasher Sha1.State)) absorb := by
  have follows : Follows (Eq : ρ × Spill → ρ × Spill → Prop) Eq .second .second :=
    ⟨fun _ _ h => by rw [h], fun _ _ _ _ h h' => by rw [h, h']⟩
  refine inStep_look.bind ?_
  rintro p _ rfl
  refine InStep.ite ((inStep_create.part follows).bind fun _ _ _ => ?_) ?_
  all_goals
    refine (inStep_refl _).quiet.bind ?_
    rintro hasher _ rfl
    refine (inStep_refl _).quiet.bind fun _ _ _ =>
      (inStep_change fun _ _ h => by rw [h]).bind fun _ _ _ => inStep_look.bind ?_
    rintro p _ rfl
    exact (inStep_tell _ _ _).bind fun _ _ _ => inStep_pure rfl

theorem streams_eq [Reader ρ] (config : UploadConfig) :
    Streams told config (Eq : ρ → ρ → Prop) Eq where
  sample := inStep_refl _
  replay h := by
    rename_i r r'
    obtain ⟨_, _, _⟩ := r
    obtain ⟨_, _, _⟩ := r'
    obtain ⟨rfl, rfl, rfl⟩ := h
    rfl
  slice := inStep_refl _
  absorb h _ hlog := by
    cases h
    exact (Spill.inStep_absorb _ _ (.mk rfl hlog)).mono (Beside.mono fun _ _ h => h ▸ ⟨rfl, rfl⟩)

end Absorbing

/-- Whatever it is opened for, an origin opens to the same. -/
theorem Source.inStep_resolve {σ τ : Type} {told : Prop} {R : σ → τ → Prop} (disk : Disk)
    (name : Option String) (size : Option Int) (o : Origin ρ) :
    InStep (fun x y => x.1 = y.1 ∧ x.2 = y.2) (Beside told R) (resolve disk name size o)
      (resolve disk name size o) := by
  have opened : ∀ {stream : Opened ρ}, o.Opens stream →
      InStep (fun x y => x.1 = y.1 ∧ x.2 = y.2) (Beside told R) (resolve disk name size o)
        (resolve disk name size o) := by
    intro stream h s t hst
    rw [h.resolve, h.resolve]
    exact .ok ⟨rfl, rfl⟩ hst
  cases o with
  | path p =>
    unfold resolve
    refine (inStep_ofExcept _).bind ?_
    rintro bytes _ rfl
    refine (inStep_ofExcept _).bind ?_
    rintro digits _ rfl
    exact (inStep_tell _ _ _).bind fun _ _ _ => inStep_pure ⟨rfl, rfl⟩
  | bytes b => exact opened (.bytes b)
  | stream r => exact opened (.stream r)
  | blocking b => exact opened (.blocking b)
  | text => exact inStep_fail _
  | unsupported kind => exact inStep_fail _

namespace Watched

variable {β : Type}

/-- A service does what it does watched. -/
def Watches (w : Watched α) (a : α) : Prop := w.service = a

/-- A call that is kept goes in step with the call. -/
theorem inStep_note (event : Except Fault β → Event) (call : Act α β) :
    InStep Eq (Told Watches) (note event call) call := by
  rintro ⟨⟨service, events⟩, log⟩ ⟨_, _⟩ ⟨rfl, hlog⟩
  cases hlog trivial
  unfold note
  cases hc : call ⟨service, log⟩ with
  | ok b t =>
    simp only [Bind.bind, EStateM.bind, Act.outcome, Act.within, theService, hc]
    have hw : Watches ⟨t.state, events ++ [event (.ok b)]⟩ t.state := rfl
    exact .ok rfl (.mk hw t.log)
  | error e t =>
    simp only [Bind.bind, EStateM.bind, Act.outcome, Act.within, theService, hc]
    have hw : Watches ⟨t.state, events ++ [event (.error e)]⟩ t.state := rfl
    exact .error e (.mk hw t.log)

theorem services_watches [DriveService α] : Services (Watches : Watched α → α → Prop) where
  accessToken h := congrArg DriveService.accessToken h
  createUpload _ := inStep_note _ _
  uploadPart _ _ := inStep_note _ _
  completeUpload _ _ _ := inStep_note _ _

theorem tellers_watches : ∀ callback : Option (Progress α),
    Tellers True Watches (callback.map progress) callback
  | none => .none
  | some _ => .some fun _ => inStep_note _ _

end Watched

/-- **Watching changes nothing.**  A watched upload ends as it does unwatched. -/
theorem Coordinator.watch_upload [Reader ρ] [DriveService α] (c : Coordinator)
    (call : UploadCall ρ α) (s : Logged (Site α)) :
    (∀ {report t}, c.upload call s = .ok report t → (c.watch call s).1 = .ok report) ∧
      ∀ {e t}, c.upload call s = .error e t → (c.watch call s).1 = .error e := by
  have hcall : call.watched.Match True Eq Watched.Watches call :=
    ⟨rfl, rfl, Watched.tellers_watches _, fun disk => Source.inStep_resolve disk _ _ _⟩
  have halike := upload_inStep (c := c) (streams_eq _) Watched.services_watches hcall
    ⟨⟨⟨s.state.service, []⟩, s.state.disk⟩, s.log⟩ s (.mk ⟨rfl, rfl⟩ s.log)
  unfold watch
  generalize c.upload call.watched _ = x at halike
  generalize c.upload call s = y at halike
  cases halike with
  | ok h =>
    cases h.1
    exact ⟨fun h => by cases h; rfl, fun h => nomatch h⟩
  | error e h => exact ⟨fun h => (nomatch h), fun h => by cases h; rfl⟩

end RapidUpload
