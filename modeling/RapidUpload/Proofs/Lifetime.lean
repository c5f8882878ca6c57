import RapidUpload.Proofs.Calm
import RapidUpload.Proofs.Conduct

/-!
# The lifetime of a temp file

An upload makes at most one temp file, and only once the full hash is due.  It keeps the file while
it delivers, and removes it before it completes, however delivering ends.

* `Disk.Gains`, `Disk.Keeps`: a disk with one temp file more, or with the same files.
* `Negotiator.Due`: the full hash is due, without samples or after a challenge.
* `Scene.Life`, `Coordinator.life_deliver`: no temp file is made, or one that stands from then on.
* `Scene.Unopened`: a temp file is made that cannot be opened, and that is the end of delivering.
* `Site.Life`, `Coordinator.life_upload`: no temp file is made, or one that is gone again.
-/

namespace RapidUpload

open Step

variable {ρ α β : Type}

/-! ### Temp files on a disk -/

namespace Disk

/-- The temp files that stand were made before the next one, whose name is not in use then. -/
def Numbered (d : Disk) : Prop := ∀ t ∈ d.temps, t.serial < d.next

/-- The same disk but for one temp file more, which is the newest. -/
structure Gains (d : Disk) (temp : TempFile) (d' : Disk) : Prop where
  serial : temp.serial = d.next
  isFile : temp.isFolder = false
  disk : d' = { d with temps := temp :: d.temps, next := d.next + 1 }

/-- The same disk but for the serial of the next temp file. -/
def Keeps (d d' : Disk) : Prop := ∃ next, d' = { d with next := next }

variable {d d' : Disk} {temp : TempFile}

theorem gains_createTemp {folder : Option String} {made : TempFile × Disk}
    (h : d.createTemp folder = .ok made) : d.Gains made.1 made.2 := by
  unfold createTemp at h
  simp only [bind, Except.bind, pure, Except.pure, throw, throwThe, MonadExceptOf.throw] at h
  repeat' split at h
  all_goals cases h
  all_goals exact ⟨rfl, rfl, rfl⟩

/-- The newest temp file can be removed, and no other one goes with it. -/
theorem Gains.remove (h : d.Gains temp d') (hd : d.Numbered) :
    d'.temp? temp.serial = some temp ∧
      d'.removeTemp temp.serial = .ok { d with next := d.next + 1 } := by
  obtain ⟨hserial, hfile, rfl⟩ := h
  have hfind : Disk.temp? { d with temps := temp :: d.temps, next := d.next + 1 } temp.serial =
      some temp := List.find?_cons_of_pos (by simp)
  have hothers : d.temps.filter (·.serial != temp.serial) = d.temps := by
    rw [List.filter_eq_self]
    intro t ht
    have := hd t ht
    exact bne_iff_ne.mpr (by omega)
  refine ⟨hfind, ?_⟩
  rw [removeTemp, hfind]
  dsimp only
  rw [hfile, if_neg Bool.false_ne_true, dropTemp, List.filter_cons_of_neg (by simp), hothers]

end Disk

namespace Spill

/-- A spill has made a temp file on the disk of another one. -/
def Made (s t : Spill) : Prop := ∃ temp, s.disk.Gains temp t.disk ∧ t.temp = some temp

theorem made_holding {s : Spill} {made : TempFile × Disk}
    (h : s.disk.createTemp s.folder = .ok made) : s.Made (s.holding made) :=
  ⟨made.1, Disk.gains_createTemp h, rfl⟩

/-- The temp file made stays the same. -/
theorem Made.same {s m t : Spill} (h : s.Made m) (ht : Same m t) : s.Made t := by
  obtain ⟨temp, hg, hm⟩ := h
  exact ⟨temp, ht.disk ▸ hg, ht.temp.trans hm⟩

theorem Made.since {s m t : Spill} (h : m.Made t) (hm : Same s m) : s.Made t := by
  obtain ⟨temp, hg, ht⟩ := h
  exact ⟨temp, hm.disk ▸ hg, ht⟩

/-- Making the temp file is told once it is open, and else it is not; where none can be made nothing
has changed. -/
theorem create_made (s : Logged Spill) :
    Ends create s
      (fun _ t => s.state.Made t.state ∧ ∃ line, Log.Line.change line = 1 ∧
        t.log = s.log.push line)
      (fun e t => t = s ∨ ∃ reason, e = creationFault reason ∧ s.state.Made t.state ∧
        t.state.handle = s.state.handle ∧ t.log = s.log) := by
  refine (create_ends s.state s.log).mono ?_ ?_
  · rintro _ ⟨_, _⟩ ⟨made, hm, -, rfl, rfl⟩
    exact ⟨made_holding hm, createdLine made, rfl, rfl⟩
  · rintro e t (rfl | ⟨made, reason, hm, -, rfl, rfl⟩)
    · exact .inl rfl
    · exact .inr ⟨reason, rfl, made_holding hm, rfl, rfl⟩

/-- A failed step on the file is not told as a change of temp files. -/
theorem change_message (level : Log.Level) (what : SpillStep) (path : String) (reason : DiskFault) :
    Log.Line.change ⟨level, .spill, [(StorageCause.step what path reason).message]⟩ = 0 := by
  have hhead : (StorageCause.step what path reason).message.toList.head? = some 'C' := by
    unfold StorageCause.message
    simp [String.append_assoc]
  have hne : ∀ text : String, text.toList.head? = some 'S' →
      (StorageCause.step what path reason).message ≠ text := by
    rintro text ht rfl
    rw [hhead] at ht
    cases ht
  have hcreated := hne "Spill file created: " (by simp)
  have hremoved := hne "Spill file removed: " (by simp)
  unfold Log.Line.change
  dsimp only
  rw [if_neg hcreated, if_neg hremoved]

/-- Closing the file leaves it on the disk, and what is told of it is not about temp files. -/
theorem closeFile_same [DriveService α] {progress : Option (Progress α)}
    {R : Logged α → Logged α → Prop} (h : Calm progress R) (s : Logged Spill) (a : α) :
    Same s.state (closeFile s).state ∧ R ⟨a, s.log⟩ ⟨a, (closeFile s).log⟩ := by
  unfold closeFile
  cases s.state.handle with
  | none => exact ⟨⟨rfl, rfl⟩, h.refl _⟩
  | some handle =>
    refine ⟨⟨rfl, rfl⟩, ?_⟩
    dsimp only
    split
    · exact h.tell ⟨a, s.log⟩ _ (change_message ..)
    · exact h.refl _

theorem removeFile_of_none {s : Logged Spill} (h : s.state.temp = none) : removeFile s = s := by
  unfold removeFile
  rw [h]

/-- Removing the file is told, and leaves the disk as it was before but for the next serial. -/
theorem removeFile_made {s : Spill} {t : Logged Spill} (hd : s.disk.Numbered)
    (h : s.Made t.state) :
    (removeFile t).state.disk = { s.disk with next := s.disk.next + 1 } ∧
      ∃ line, Log.Line.change line = -1 ∧ (removeFile t).log = t.log.push line := by
  obtain ⟨temp, hg, ht⟩ := h
  obtain ⟨hfound, hremoved⟩ := hg.remove hd
  unfold removeFile
  rw [ht]
  dsimp only
  rw [hfound, hremoved]
  exact ⟨rfl, _, rfl, rfl⟩

end Spill

/-! ### While an upload delivers -/

namespace Scene

/-- From one scene to another one no temp file is made; or one is made and told of at a moment with
`Due`, and stands from then on. -/
inductive Life (Due : Logged α → Prop) (R : Logged α → Logged α → Prop)
    (s t : Logged (Scene ρ α)) : Prop
  | unmade (h : Kept R s t)
  | made {m : Logged α} {line : Log.Line} (due : Due m) (told : line.change = 1)
    (file : s.state.spill.Made t.state.spill) (after : R ⟨m.state, m.log.push line⟩ (plain t))

/-- From one scene to another one a temp file is made at a moment with `Due`, and cannot be opened.
It stands in the end, though nothing was told of it. -/
structure Unopened (Due : Logged α → Prop) (s : Logged (Scene ρ α)) (e : Fault)
    (t : Logged (Scene ρ α)) : Prop where
  due : Due (plain t)
  file : s.state.spill.Made t.state.spill
  closed : t.state.spill.handle = none
  fault : ∃ reason, e = Spill.creationFault reason

/-- An action goes on from a scene `m` some way after another one so that a temp file lives as it
should all along. -/
def Lives (Due : Logged α → Prop) (R : Logged α → Logged α → Prop) (s : Logged (Scene ρ α))
    (a : Act (Scene ρ α) β) (m : Logged (Scene ρ α)) : Prop :=
  Ends a m (fun _ t => Life Due R s t) fun e t => Life Due R s t ∨ Unopened Due s e t

namespace Life

variable {Due : Logged α → Prop} {R : Logged α → Logged α → Prop} {s m : Logged (Scene ρ α)}

theorem kept (hR : Onward R) {t : Logged (Scene ρ α)} (h : Life Due R s m) (hk : Kept R m t) :
    Life Due R s t := by
  cases h with
  | unmade h =>
    exact .unmade ⟨Spill.onward_same.trans h.spill hk.spill, hR.trans h.service hk.service⟩
  | made due told file after =>
    exact .made due told (file.same hk.spill) (hR.trans after hk.service)

theorem lives (hR : Onward R) (h : Life Due R s m) {a : Act (Scene ρ α) β}
    (ha : Carries (Kept R) a) : Lives Due R s a m :=
  (ha m).mono (fun _ _ => h.kept hR) fun _ _ hk => .inl (h.kept hR hk)

end Life

namespace Lives

variable {Due : Logged α → Prop} {R : Logged α → Logged α → Prop} {s m : Logged (Scene ρ α)}

theorem bind {γ : Type} (hR : Onward R) {a : Act (Scene ρ α) γ} {f : γ → Act (Scene ρ α) β}
    (ha : Lives Due R s a m) (hf : ∀ c, Carries (Kept R) (f c)) : Lives Due R s (a >>= f) m :=
  ends_bind.mpr (ha.mono (fun c _ h => h.lives hR (hf c)) fun _ _ h => h)

variable [Reader ρ] [DriveService α] {progress : Option (Progress α)} (h : Calm progress R)

include h

/-- The first absorption makes the temp file, unless none can be made. -/
theorem absorb (hk : Kept R s m) (hm : Due (plain m)) :
    Lives Due R s (Act.within (theStream.both theSpill) Spill.absorb) m := by
  have filled := Spill.carries_fill (ρ := Replay ρ) h
  unfold Lives
  rw [ends_part]
  unfold Spill.absorb
  rw [ends_bind, ends_look]
  dsimp only
  split
  · rename_i hnone
    rw [ends_bind, ends_part]
    refine (Spill.create_made _).mono ?_ ?_
    · rintro _ ⟨spill, log⟩ ⟨hmade, line, hl, rfl⟩
      -- from here on the file stands
      have made : ∀ {t}, Spill.Filled R ⟨(m.state.stream, spill), m.log.push line⟩ t →
          Life Due R s ⟨(theStream.both theSpill).set t.state m.state, t.log⟩ := fun ht =>
        .made hm hl ((hmade.since hk.spill).same ht.spill) (ht.told m.state.service)
      exact (filled _).mono (fun _ _ => made) fun _ _ ht => .inl (made ht)
    · rintro e ⟨spill, log⟩ (hsame | ⟨reason, rfl, hmade, hclosed, rfl⟩)
      · cases hsame
        exact .inl (.unmade hk)
      · have hclosed := hclosed.trans (Option.isNone_iff_eq_none.mp hnone)
        exact .inr ⟨hm, hmade.since hk.spill, hclosed, reason, rfl⟩
  · have same : ∀ {t}, Spill.Filled R ⟨(m.state.stream, m.state.spill), m.log⟩ t →
        Life Due R s ⟨(theStream.both theSpill).set t.state m.state, t.log⟩ := fun ht =>
      (Life.unmade hk).kept h.toOnward ⟨ht.spill, ht.told m.state.service⟩
    exact (filled _).mono (fun _ _ => same) fun _ _ ht => .inl (same ht)

/-- From where the full hash is due on, a negotiation makes one temp file at most. -/
theorem prove (hk : Kept R s m) (hm : Due (plain m)) (request : Request)
    (previous : Option Answer) : Lives Due R s (Negotiator.prove request previous) m := by
  have hkept := h.kept (ρ := ρ)
  unfold Negotiator.prove
  refine bind h.toOnward (absorb h hk hm) fun hasher => ?_
  have required : ∀ answer, Carries (Kept (ρ := ρ) R) (do
      Negotiator.enter .transferRequired
      Act.within theSpill (Act.quiet Spill.rewind)
      Negotiator.requireTransfer answer .spill) := fun answer =>
    hkept.bind (Negotiator.carries_enter h _) fun _ =>
      hkept.bind (h.kept_spill Spill.carries_rewind) fun _ =>
        Negotiator.carries_requireTransfer h _ _
  refine hkept.tell_if (fun _ => h.kept_tell rfl) fun _ => hkept.bind hkept.look fun scene =>
    hkept.bind (h.kept_spill (Possession.carries_prove _ _)) fun window =>
    hkept.bind (h.kept_tell rfl) fun _ =>
    hkept.bind (Negotiator.carries_submit h request _) fun verdict => ?_
  cases verdict with
  | accepted answer =>
    dsimp only
    split
    · exact Negotiator.carries_confirm h request _ answer
    · exact required _
  | challenged challenge =>
    exact hkept.bind (h.kept_tell rfl) fun _ => hkept.bind (hkept.ofExcept _) fun _ => required _

end Lives

end Scene

/-- The full hash is due from one moment on, some way after another one: samples are not tried, or
the answer to a sample was a challenge that can be read. -/
inductive Negotiator.Due [DriveService α] (rapid : Bool) (request : Request)
    (R : Logged α → Logged α → Prop) (a m : Logged α) : Prop
  | alone (h : rapid = false) (hm : R a m)
  | challenged {x : Exchange α} {challenge : Challenge} {previous : Answer} (made : x.Made request)
    (verdict : Verdict.of x.result = .ok (.challenged challenge))
    (read : Answer.ofJson challenge.payload = .ok previous) (before : R a x.before)
    (after : R x.after m)

section Delivering

variable [Reader ρ] [DriveService α] {progress : Option (Progress α)}
  {R : Logged α → Logged α → Prop} (h : Calm progress R)

include h

open Negotiator in
/-- A negotiation makes no temp file, or one once the full hash is due. -/
theorem Scene.Lives.negotiate (n : Negotiator) (request : Request) (r : ρ)
    (s : Logged (Scene ρ α)) :
    Lives (Due n.rapid request R (plain s)) R s (n.negotiate request r) s := by
  obtain ⟨rapid, sampler⟩ := n
  have hkept := h.kept (ρ := ρ)
  have changed : ∀ {m : Logged (Scene ρ α)}, Kept R s m → ∀ stream stage,
      Kept R s ⟨{ m.state with stream := stream, stage := stage }, m.log⟩ :=
    fun hm _ _ => ⟨hm.spill, hm.service⟩
  have told : ∀ {m : Logged (Scene ρ α)}, Kept R s m → ∀ line : Log.Line, line.change = 0 →
      Kept R s ⟨m.state, m.log.push line⟩ :=
    fun hm _ hl => ⟨hm.spill, h.trans hm.service (h.tell (plain _) _ hl)⟩
  have started := changed (hkept.refl s) (.bare r) .prehashPending
  unfold Lives Negotiator.negotiate
  rw [ends_bind, ends_change]
  cases rapid with
  | false => exact prove h started (.alone rfl (h.refl _)) request none
  | true =>
    dsimp only
    rw [if_pos rfl, ends_bind]
    refine (Sampler.carries_sample h sampler _).mono ?_ fun e t ht =>
      .inl (.unmade (hkept.trans started ht))
    intro sample t ht
    have sampled := changed (hkept.trans started ht) (sample.replay t.state.stream.inner)
      t.state.stage
    rw [ends_bind, ends_change, ends_bind, ends_ofExcept]
    refine ⟨fun declared _ => ?_, fun e _ => .inl (.unmade sampled)⟩
    rw [ends_bind, ends_tell, ends_bind]
    have asked := told sampled ⟨.info, .negotiator, ["Submitting pre-hash for ", request.name, " (",
      declared, " bytes)"]⟩ rfl
    refine ((submit_ends request _ _).and (carries_submit h request _ _)).mono ?_
      fun e t' ht' => .inl (.unmade (hkept.trans asked ht'.2))
    rintro verdict t' ⟨⟨x, hx, hlog⟩, ht'⟩
    have answered := hkept.trans asked ht'
    cases verdict with
    | accepted answer =>
      dsimp only
      split
      · exact (Life.unmade answered).lives h.toOnward (carries_confirm h request _ answer)
      · exact (Life.unmade answered).lives h.toOnward (hkept.bind (carries_enter h _) fun _ =>
          carries_requireTransfer h _ _)
    | challenged challenge =>
      -- the exchange that carries the challenge is what makes the full hash due
      dsimp only
      unfold enter
      rw [ends_bind, ends_tell, ends_bind, ends_change, ends_bind, ends_ofExcept]
      have challenged := changed (told answered ⟨.info, .negotiator,
        ["Pre-hash matched for ", request.name, ", proving full possession"]⟩ rfl)
        t'.state.stream .hashChallengeIssued
      refine ⟨fun previous hp => ?_, fun e he => .inl (.unmade challenged)⟩
      refine prove h challenged (.challenged hx.made hx.verdict_eq hp ?_ ?_) request _
      · rw [hx.before_eq]
        exact asked.service
      · obtain ⟨t', log⟩ := t'
        obtain rfl := hx.after_eq
        obtain rfl : log = x.after.log := hlog
        exact h.tell x.after _ rfl

/-- Delivering makes no temp file, or one once the full hash is due. -/
theorem Coordinator.life_deliver (c : Coordinator) (rapid : Bool) (request : Request)
    (stream : ρ) (s : Logged (Scene ρ α)) :
    Scene.Lives (Negotiator.Due rapid request R (Scene.plain s)) R s
      (c.deliver rapid request stream progress) s := by
  have hkept := h.kept (ρ := ρ)
  unfold deliver
  refine Scene.Lives.bind h.toOnward (Scene.Lives.negotiate h _ request stream s) fun out => ?_
  split
  · exact hkept.bind (h.kept_tell rfl) fun _ => hkept.pure _
  · exact hkept.bind (carries_transfer h c out _) fun _ => hkept.pure _

end Delivering

/-! ### The whole upload -/

theorem Negotiator.Due.after [DriveService α] {rapid : Bool} {request : Request}
    {R : Logged α → Logged α → Prop} (hR : Onward R) {a b m : Logged α} (hab : R a b)
    (h : Due rapid request R b m) : Due rapid request R a m := by
  cases h with
  | alone h hm => exact .alone h (hR.trans hab hm)
  | challenged made verdict read before after =>
    exact .challenged made verdict read (hR.trans hab before) after

namespace Site

/-- The service of a site, with the lines told so far. -/
def plain (s : Logged (Site α)) : Logged α := ⟨s.state.service, s.log⟩

/-- The disk is the same, and the service stands in the relation. -/
structure Kept (R : Logged α → Logged α → Prop) (s t : Logged (Site α)) : Prop where
  disk : t.state.disk = s.state.disk
  service : R (plain s) (plain t)

theorem onward_kept {R : Logged α → Logged α → Prop} (hR : Onward R) : Onward (Kept R) where
  refl _ := ⟨rfl, hR.refl _⟩
  trans h₁ h₂ := ⟨h₂.disk.trans h₁.disk, hR.trans h₁.service h₂.service⟩

/-- From one site to another one no temp file is made; or one is made at a moment with `Due`, and is
gone again once the upload has delivered. -/
inductive Life (Due : Logged α → Prop) (R R' : Logged α → Logged α → Prop)
    (s t : Logged (Site α)) : Prop
  | unmade (h : Kept R' s t)
  | made {m l : Logged α} {line line' : Log.Line} (due : Due m) (told : line.change = 1)
    (stands : R ⟨m.state, m.log.push line⟩ l) (gone : line'.change = -1)
    (disk : t.state.disk = { s.state.disk with next := s.state.disk.next + 1 })
    (after : R' ⟨l.state, l.log.push line'⟩ (plain t))

/-- From one site to another one a temp file is made at a moment with `Due`, and is gone again next,
since it cannot be opened. -/
structure Undone (Due : Logged α → Prop) (s : Logged (Site α)) (e : Fault)
    (t : Logged (Site α)) : Prop where
  removed : ∃ m line, Due m ∧ Log.Line.change line = -1 ∧ plain t = ⟨m.state, m.log.push line⟩
  disk : t.state.disk = { s.state.disk with next := s.state.disk.next + 1 }
  fault : ∃ reason, e = Spill.creationFault reason

variable {Due : Logged α → Prop} {R R' : Logged α → Logged α → Prop} {s m : Logged (Site α)}

theorem Life.kept (hR' : Onward R') {t : Logged (Site α)} (h : Life Due R R' s m)
    (hk : Kept R' m t) : Life Due R R' s t := by
  cases h with
  | unmade h => exact .unmade ((onward_kept hR').trans h hk)
  | made due told stands gone disk after =>
    exact .made due told stands gone (hk.disk.trans disk) (hR'.trans after hk.service)

/-- Either way the disk has the same files in the end. -/
theorem Life.keeps {t : Logged (Site α)} (h : Life Due R R' s t) :
    s.state.disk.Keeps t.state.disk := by
  cases h with
  | unmade hk => exact ⟨s.state.disk.next, hk.disk⟩
  | made _ _ _ _ disk _ => exact ⟨_, disk⟩

theorem Undone.keeps {e : Fault} {t : Logged (Site α)} (h : Undone Due s e t) :
    s.state.disk.Keeps t.state.disk := ⟨_, h.disk⟩

/-- What comes before the temp file is made comes before it from further back. -/
theorem Life.after {Due' : Logged α → Prop} (hR' : Onward R') {t : Logged (Site α)}
    (hk : Kept R' s m) (hdue : ∀ a, Due a → Due' a) (h : Life Due R R' m t) :
    Life Due' R R' s t := by
  cases h with
  | unmade h => exact .unmade ((onward_kept hR').trans hk h)
  | made due told stands gone disk after =>
    exact .made (hdue _ due) told stands gone (hk.disk ▸ disk) after

theorem Undone.after {Due' : Logged α → Prop} {e : Fault} {t : Logged (Site α)}
    (hk : Kept R' s m) (hdue : ∀ a, Due a → Due' a) (h : Undone Due m e t) :
    Undone Due' s e t := by
  obtain ⟨⟨a, line, due, hl, ht⟩, hdisk, hfault⟩ := h
  exact ⟨⟨a, line, hdue _ due, hl, ht⟩, hk.disk ▸ hdisk, hfault⟩

/-- Cleaning up removes the temp file of a scene, if one was made. -/
theorem Life.closed [DriveService α] {progress : Option (Progress α)} (h : Calm progress R)
    (hR' : Onward R') (hsub : ∀ {a b}, R a b → R' a b) (hd : s.state.disk.Numbered)
    {folder : Option String} {stream : ρ} {t : Logged (Scene ρ α)}
    (ht : Scene.Life Due R
      ⟨⟨.bare stream, s.state.service, .new s.state.disk folder, .prehashPending⟩, s.log⟩ t) :
    Life Due R R' s (Site.closed t) := by
  -- the file is closed first, and what is told then comes before the removal
  obtain ⟨hsame, htold⟩ := Spill.closeFile_same h ⟨t.state.spill, t.log⟩ t.state.service
  unfold Site.closed Spill.cleanup
  cases ht with
  | unmade hk =>
    have hnone : (Spill.closeFile ⟨t.state.spill, t.log⟩).state.temp = none :=
      hsame.temp.trans hk.spill.temp
    rw [Spill.removeFile_of_none hnone]
    exact .unmade ⟨hsame.disk.trans hk.spill.disk, hsub (h.trans hk.service htold)⟩
  | made due told file after =>
    obtain ⟨hdisk, line', hl, hlog⟩ := Spill.removeFile_made hd (file.same hsame)
    refine .made due told (h.trans after htold) hl hdisk ?_
    rw [plain, hlog]
    exact hR'.refl _

/-- Cleaning up removes the temp file of a scene that could not be opened, too. -/
theorem Undone.closed (hd : s.state.disk.Numbered) {folder : Option String} {stream : ρ} {e : Fault}
    {t : Logged (Scene ρ α)} (ht : Scene.Unopened Due
      ⟨⟨.bare stream, s.state.service, .new s.state.disk folder, .prehashPending⟩, s.log⟩ e t) :
    Undone Due s e (Site.closed t) := by
  -- there is nothing to close, and so nothing is told before the removal
  have hclosed : Spill.closeFile ⟨t.state.spill, t.log⟩ = ⟨t.state.spill, t.log⟩ := by
    unfold Spill.closeFile
    rw [ht.closed]
  obtain ⟨hdisk, line, hl, hlog⟩ := Spill.removeFile_made (t := ⟨t.state.spill, t.log⟩) hd ht.file
  unfold Site.closed Spill.cleanup
  rw [hclosed]
  refine ⟨⟨_, line, ht.due, hl, ?_⟩, hdisk, ht.fault⟩
  rw [plain, hlog]
  rfl

end Site

/-- **The lifetime of the temp file.**  An upload makes no temp file, or one once the full hash is
due, and that one is gone before the upload is completed, whichever way it ends; one that cannot be
opened is gone next, and ends the upload. -/
theorem Coordinator.life_upload [Reader ρ] [DriveService α] (c : Coordinator)
    (call : UploadCall ρ α) {R R' : Logged α → Logged α → Prop} (h : Calm call.progress R)
    (hR' : Onward R') (hsub : ∀ {a b}, R a b → R' a b)
    (hcomplete : ∀ driveId fileId uploadId,
      Carries R' (DriveService.completeUpload driveId fileId uploadId))
    (s : Logged (Site α)) (hd : s.state.disk.Numbered) :
    let Due := fun m => ∃ request, Negotiator.Due (c.triesRapid call) request R (Site.plain s) m
    Ends (c.upload call) s (fun _ t => Site.Life Due R R' s t)
      fun e t => Site.Life Due R R' s t ∨ Site.Undone Due s e t := by
  intro Due
  have hkept := Site.onward_kept h.toOnward
  have hkept' := Site.onward_kept hR'
  have weaken : ∀ {a b}, Site.Kept R a b → Site.Kept R' a b :=
    fun hk => ⟨hk.disk, hsub hk.service⟩
  have told : ∀ (a : Logged (Site α)) (line : Log.Line), line.change = 0 →
      Site.Kept R a { a with log := a.log.push line } :=
    fun a line hl => ⟨rfl, h.tell (Site.plain a) line hl⟩
  unfold upload
  rw [ends_bind, ends_look, ends_bind]
  refine (Source.carries_enter hkept told _ _ _ _ s).mono ?_ fun e t ht =>
    .inl (.unmade (weaken ht))
  intro source m hm
  rw [ends_bind, ends_ofExcept]
  refine ⟨fun size hsize => ?_, fun e he => .inl (.unmade (weaken hm))⟩
  rw [ends_bind, ends_tell, ends_bind]
  have opened := hkept.trans hm (told m ⟨.info, .coordinator, ["Starting upload: ", source.name,
    " (", size, " MB, rapid=", (Json.bool (call.rapid.getD c.config.rapid)).shown, ")"]⟩ rfl)
  generalize Logged.mk m.state _ = start at opened ⊢
  have hnumbered : start.state.disk.Numbered := by
    rw [opened.disk]
    exact hd
  have before : ∀ a, Negotiator.Due (c.triesRapid call) (c.request call.parentId source) R
      (Site.plain start) a → Due a := fun a ha => ⟨_, ha.after h.toOnward opened.service⟩
  have closed : ∀ {t}, Scene.Life (Negotiator.Due (c.triesRapid call)
      (c.request call.parentId source) R (Site.plain start)) R
      ⟨⟨.bare source.stream, start.state.service, .new start.state.disk c.config.tempFolder,
        .prehashPending⟩, start.log⟩ t → Site.Life Due R R' s (Site.closed t) := fun ht =>
    (Site.Life.closed h hR' hsub hnumbered ht).after hR' (weaken opened) before
  refine Site.ends_withScene.mpr ((c.life_deliver h _ _ source.stream _).mono ?_
    fun e t ht => ht.imp closed fun ht => (Site.Undone.closed hnumbered ht).after (weaken opened)
      before)
  rintro ⟨out, sent⟩ t ht
  -- what follows comes after the clean-up, the completion too
  refine Ends.mono ?_ (fun _ _ => (closed ht).kept hR') fun _ _ hk => .inl ((closed ht).kept hR' hk)
  dsimp only
  split
  · rename_i session _ _
    have completed := Completion.carries_complete hR' (fun a line hl => hsub (h.tell a line hl))
      hcomplete c.driveId session
    exact hkept'.bind (carries_part completed fun _ _ hst => ⟨rfl, hst⟩) (fun answer =>
      hkept'.bind (carries_tell fun a => weaken (told a _ rfl)) fun _ => hkept'.pure _) _
  · exact hkept'.pure _ _

end RapidUpload
