import RapidUpload.Upload
import RapidUpload.Proofs.Carry

/-!
# What leaves temp files alone

Only making a spill's file and cleaning up after it change which temp files stand.  All other steps
of an upload leave the disk and the spill's file as they are, and tell nothing about temp files.

* `Log.Line.change`: what a line tells about temp files.
* `Spill.Same`: a spill with the same file on the same disk.
* `Calm`: a relation that the calls to a service carry, and the lines that are not about temp files.
* `Negotiator.carries_submit`, `Transfer.carries_run`: the steps that leave temp files alone.
-/

namespace RapidUpload

open Step

variable {ρ α β : Type}

/-! ### Lines about temp files -/

namespace Log

/-- How many temp files more there are by a line: one is made, or one is gone. -/
def Line.change (l : Line) : Int :=
  match l.channel, l.pieces with
  | .spill, .text text :: _ =>
    if text = "Spill file created: " then 1 else if text = "Spill file removed: " then -1 else 0
  | _, _ => 0

end Log

/-- A relation between a service with the lines told, before and after: it adds up, and the calls of
an upload but the completion carry it, as do lines that are not about temp files. -/
structure Calm [DriveService α] (progress : Option (Progress α))
    (R : Logged α → Logged α → Prop) : Prop extends Onward R where
  tell : ∀ (s : Logged α) (line : Log.Line), line.change = 0 →
    R s { s with log := s.log.push line }
  create : ∀ body, Carries R (DriveService.createUpload body)
  put : ∀ url bytes, Carries R (DriveService.uploadPart url bytes)
  told : ∀ tell ∈ progress, ∀ n, Carries R (tell n)

/-! ### Spills -/

namespace Spill

/-- The same file on the same disk. -/
structure Same (s t : Spill) : Prop where
  disk : t.disk = s.disk
  temp : t.temp = s.temp

theorem onward_same : Onward Same where
  refl _ := ⟨rfl, rfl⟩
  trans h h' := ⟨h'.disk.trans h.disk, h'.temp.trans h.temp⟩

theorem carries_onFile (what : SpillStep) (a : Step FileCursor β) :
    Carries Same (onFile what a) := by
  rintro ⟨disk, folder, temp, handle, length⟩
  unfold Ends onFile
  cases handle with
  | none => exact ⟨rfl, rfl⟩
  | some handle =>
    dsimp only
    by_cases hb : handle.broken.contains what = true
    · rw [if_pos hb]
      exact ⟨rfl, rfl⟩
    · rw [if_neg hb]
      cases a handle.cursor <;> exact ⟨rfl, rfl⟩

theorem carries_seek (n : Int) : Carries Same (Spill.seek n) := by
  intro s
  have h := carries_onFile .seek (FileCursor.seek n) s
  unfold Ends Spill.seek at *
  generalize onFile .seek (FileCursor.seek n) s = r at h
  cases r with
  | ok b t => exact h
  | error e t =>
    -- a fault is at most worded anew
    cases e with
    | undefined u => cases u <;> exact h
    | _ => exact h

theorem carries_rewind : Carries Same rewind :=
  onward_same.bind (carries_seek 0) fun _ => onward_same.pure _

theorem carries_read (ask : Option Int) :
    Carries Same (Reader.read ask : Step Spill (Option ByteArray)) :=
  (carries_onFile .read (FileCursor.read ask)).map some

/-- Writing and reading leave the file where it is. -/
theorem carries_write (bytes : ByteArray) : Carries Same (write bytes) := by
  rintro ⟨disk, folder, temp, handle, length⟩
  unfold Ends write
  cases handle with
  | none => exact ⟨rfl, rfl⟩
  | some handle =>
    dsimp only
    by_cases hb : handle.broken.contains .write = true
    · rw [if_pos hb]
      exact ⟨rfl, rfl⟩
    · rw [if_neg hb]
      exact ⟨rfl, rfl⟩

theorem carries_flush : Carries Same flush := by
  intro s
  unfold Ends flush
  cases s.handle with
  | none => exact ⟨rfl, rfl⟩
  | some handle =>
    dsimp only
    by_cases hb : handle.broken.contains .flush = true
    · rw [if_pos hb]
      exact ⟨rfl, rfl⟩
    · rw [if_neg hb]
      exact ⟨rfl, rfl⟩

theorem carries_copy [Reader ρ] (hasher : Hasher Sha1.State) :
    Carries (fun p q : ρ × Spill => Same p.2 q.2) (fun (r, s) => copy hasher r s) := by
  rintro ⟨r, s⟩
  unfold Ends
  dsimp only
  fun_induction copy hasher r s with
  | case1 | case2 | case3 => exact ⟨rfl, rfl⟩
  | case4 hasher r s bytes r' he hb e s' hw => exact ends_of_error (carries_write bytes s) hw
  | case5 hasher r s bytes r' he hb s' hw ih =>
    have hwrite := ends_of_ok (carries_write bytes s) hw
    split <;> rename_i hc <;> rw [hc] at ih <;> exact onward_same.trans hwrite ih

/-- The spill has the same file on the same disk, and what was told is not about temp files. -/
structure Filled (R : Logged α → Logged α → Prop) (s t : Logged (ρ × Spill)) : Prop where
  spill : Same s.state.2 t.state.2
  told : ∀ a, R ⟨a, s.log⟩ ⟨a, t.log⟩

/-- Copying a stream into the file leaves it on the disk. -/
theorem carries_fill [Reader ρ] [DriveService α] {progress : Option (Progress α)}
    {R : Logged α → Logged α → Prop} (h : Calm progress R) :
    Carries (Filled (ρ := ρ) R) (do
      let hasher ← Act.quiet fun (r, s) => copy (.new sha1) r s
      Act.quiet (Step.within .second flush)
      Act.change fun (r, s) => (r, { s with length := hasher.length })
      let s := (← Act.look).2
      Act.tell .debug .spill ["Absorbed ", toString s.length, " bytes into ", s.shownPath]
      return hasher) := by
  have hf : Onward (Filled (ρ := ρ) R) :=
    ⟨fun _ => ⟨onward_same.refl _, fun _ => h.refl _⟩, fun h₁ h₂ =>
      ⟨onward_same.trans h₁.spill h₂.spill, fun a => h.trans (h₁.told a) (h₂.told a)⟩⟩
  have quiet : ∀ {γ : Type} {a : Step (ρ × Spill) γ}, Carries (fun p q => Same p.2 q.2) a →
      Carries (Filled R) (Act.quiet a) :=
    fun ha => carries_quiet ha fun _ _ _ hst => ⟨hst, fun _ => h.refl _⟩
  refine hf.bind (quiet (carries_copy _)) fun hasher => hf.bind (quiet fun s => ?_) fun _ =>
    hf.bind (carries_change fun s => ⟨⟨rfl, rfl⟩, fun _ => h.refl _⟩) fun _ =>
    hf.bind hf.look fun s => hf.bind (carries_tell fun s => ?_) fun _ => hf.pure _
  · exact ends_within.mpr (carries_flush s.2)
  · exact ⟨onward_same.refl _, fun a => h.tell ⟨a, s.log⟩ _ rfl⟩

end Spill

theorem Possession.carries_prove (token : String) (size : Int) :
    Carries Spill.Same (prove token size : Step Spill Window) := by
  unfold prove
  cases offset token size with
  | error e => exact Spill.onward_same.throw e
  | ok start =>
    dsimp only
    split
    · exact Spill.onward_same.pure _
    · exact Spill.onward_same.bind (Spill.carries_seek start) fun _ =>
        Spill.onward_same.bind (Spill.carries_read _) fun _ => Spill.onward_same.pure _

/-! ### Scenes -/

namespace Scene

/-- The service of a scene, with the lines told so far. -/
def plain (s : Logged (Scene ρ α)) : Logged α := ⟨s.state.service, s.log⟩

/-- The spill has the same file on the same disk, and the service stands in the relation. -/
structure Kept (R : Logged α → Logged α → Prop) (s t : Logged (Scene ρ α)) : Prop where
  spill : Spill.Same s.state.spill t.state.spill
  service : R (plain s) (plain t)

/-- A call to the service. -/
theorem Kept.call {R : Logged α → Logged α → Prop} {a : Act α β} (ha : Carries R a) :
    Carries (Kept (ρ := ρ) R) (Act.within Scene.theService a) :=
  carries_part ha fun _ _ hst => ⟨Spill.onward_same.refl _, hst⟩

end Scene

/-- A stream and a service each stand in a relation to what they were. -/
structure Transfer.Paired (P : ρ → ρ → Prop) (R : Logged α → Logged α → Prop)
    (s t : Logged (ρ × α)) : Prop where
  stream : P s.state.1 t.state.1
  service : R ⟨s.state.2, s.log⟩ ⟨t.state.2, t.log⟩

/-- A call to the service. -/
theorem Transfer.Paired.call {P : ρ → ρ → Prop} {R : Logged α → Logged α → Prop} (hP : Onward P)
    {a : Act α β} (ha : Carries R a) : Carries (Paired P R) (Act.within Focus.second a) :=
  carries_part ha fun s _ hst => ⟨hP.refl s.state.1, hst⟩

section Steps

variable [DriveService α] {progress : Option (Progress α)} {R : Logged α → Logged α → Prop}

theorem Calm.kept (h : Calm progress R) : Onward (Scene.Kept (ρ := ρ) R) where
  refl _ := ⟨Spill.onward_same.refl _, h.refl _⟩
  trans h₁ h₂ := ⟨Spill.onward_same.trans h₁.spill h₂.spill, h.trans h₁.service h₂.service⟩

theorem Calm.kept_tell (h : Calm progress R) {level : Log.Level} {channel : Log.Channel}
    {pieces : List Log.Piece} (hl : Log.Line.change ⟨level, channel, pieces⟩ = 0) :
    Carries (Scene.Kept (ρ := ρ) R) (Act.tell level channel pieces) :=
  carries_tell fun s => ⟨Spill.onward_same.refl _, h.tell (Scene.plain s) _ hl⟩

/-- A step of the spill alone. -/
theorem Calm.kept_spill (h : Calm progress R) {a : Step Spill β} (ha : Carries Spill.Same a) :
    Carries (Scene.Kept (ρ := ρ) R) (Act.within Scene.theSpill (Act.quiet a)) :=
  carries_part (P := fun s t => Spill.Same s.state t.state ∧ t.log = s.log)
    (carries_quiet ha fun _ _ _ hst => ⟨hst, rfl⟩) fun s t ⟨hst, hlog⟩ =>
      ⟨hst, by rw [Scene.plain, hlog]; exact h.refl _⟩

/-- Taking a sample leaves the service and the spill alone. -/
theorem Sampler.carries_sample [Reader ρ] (h : Calm progress R) (x : Sampler) :
    Carries (Scene.Kept R) (Act.within Scene.inner x.sample : Act (Scene ρ α) Sample) := by
  have told : Onward fun s t : Logged ρ => ∀ a : α, R ⟨a, s.log⟩ ⟨a, t.log⟩ :=
    ⟨fun _ _ => h.refl _, fun h₁ h₂ a => h.trans (h₁ a) (h₂ a)⟩
  refine carries_part (P := fun s t => ∀ a : α, R ⟨a, s.log⟩ ⟨a, t.log⟩) ?_ fun s t hst =>
    ⟨Spill.onward_same.refl _, hst s.state.service⟩
  refine told.bind (carries_quiet (P := fun _ _ => True) (fun r => ?_) fun _ _ _ _ _ => h.refl _)
    fun bytes => told.bind (carries_tell fun s a => h.tell ⟨a, s.log⟩ _ rfl) fun _ => told.pure _
  exact (ends_run _ _).mono (fun _ _ _ => trivial) fun _ _ _ => trivial

namespace Negotiator

variable (h : Calm progress R)

include h

theorem carries_enter (stage : Stage) :
    Carries (Scene.Kept R) (enter stage : Act (Scene ρ α) Unit) :=
  carries_change fun s => ⟨Spill.onward_same.refl _, h.refl (Scene.plain s)⟩

theorem carries_submit (request : Request) (evidence : Evidence) :
    Carries (Scene.Kept R) (submit request evidence : Act (Scene ρ α) Verdict) := by
  refine h.kept.bind (Scene.Kept.call (h.create _)).outcome fun result => ?_
  match result with
  | .ok j => exact h.kept.bind (h.kept.ofExcept _) fun _ => h.kept.pure _
  | .error (.rejected r) =>
    refine h.kept.bind (h.kept.ofExcept _) fun more => ?_
    cases more with
    | true => exact h.kept.pure _
    | false => exact h.kept.bind (h.kept_tell rfl) fun _ => h.kept.fail _
  | .error (.general ..) | .error (.transport ..) | .error (.mismatch ..) | .error (.storage ..)
  | .error (.refused _) | .error (.undefined _) | .error (.stream _) | .error (.caller _) =>
    exact h.kept.fail _

theorem carries_confirm (request : Request) (stage : Stage) (answer : Answer) :
    Carries (Scene.Kept R) (confirm request stage answer : Act (Scene ρ α) Outcome) :=
  h.kept.bind (carries_enter h stage) fun _ => h.kept.bind (h.kept_tell rfl) fun _ => h.kept.pure _

theorem carries_requireTransfer (answer : Answer) (supply : Supply) :
    Carries (Scene.Kept R) (requireTransfer answer supply : Act (Scene ρ α) Outcome) := by
  unfold requireTransfer
  cases answer.session with
  | none => exact h.kept.fail _
  | some session =>
    exact h.kept.bind (h.kept.ofExcept _) fun _ => h.kept.bind (h.kept_tell rfl) fun _ =>
      h.kept.pure _

end Negotiator

/-! ### Transfers -/

namespace Transfer

variable {P : ρ → ρ → Prop} (hP : Onward P) (h : Calm progress R)

include hP h

theorem onward_paired : Onward (Paired P R) where
  refl _ := ⟨hP.refl _, h.refl _⟩
  trans h₁ h₂ := ⟨hP.trans h₁.stream h₂.stream, h.trans h₁.service h₂.service⟩

theorem paired_tell {level : Log.Level} {channel : Log.Channel} {pieces : List Log.Piece}
    (hl : Log.Line.change ⟨level, channel, pieces⟩ = 0) :
    Carries (Paired P R) (Act.tell level channel pieces) :=
  carries_tell fun s => ⟨hP.refl _, h.tell ⟨s.state.2, s.log⟩ _ hl⟩

theorem carries_send (part : Part) (bytes : ByteArray) :
    Carries (Paired P R) (send part bytes) := by
  have hb := onward_paired hP h
  refine hb.bind (hb.ofExcept _) fun size => hb.bind (hb.ofExcept _) fun number =>
    hb.bind (paired_tell hP h rfl) fun _ =>
      hb.bind (Paired.call hP (h.put _ _)).outcome fun result => ?_
  cases result with
  | ok u => exact paired_tell hP h rfl
  | error e => exact hb.bind (paired_tell hP h rfl) fun _ => hb.fail _

theorem carries_report (index : Nat) (count : Int) :
    Carries (Paired P R) (report progress index count) := by
  unfold report
  split
  · rename_i n tell _
    exact Paired.call hP (h.told tell rfl n)
  · exact (onward_paired hP h).pure _

variable [Reader ρ] (hread : ∀ ask, Carries P (Reader.read ask : Step ρ (Option ByteArray)))

include hread

theorem carries_sendAll (size : PartSize) (count : Int) (parts : List Part) (done : Nat) :
    Carries (Paired P R) (sendAll size count progress parts done) := by
  have hb := onward_paired hP h
  induction parts generalizing done with
  | nil => exact hb.pure _
  | cons part parts ih =>
    refine hb.bind (carries_part (P := fun s t => P s.state t.state ∧ t.log = s.log)
      (carries_quiet (Reader.carries_readUpTo hP hread _) fun _ _ _ hst => ⟨hst, rfl⟩) ?_)
      fun bytes => hb.bind (carries_send hP h part bytes) fun _ =>
        hb.bind (carries_report hP h _ _) fun _ => ih _
    rintro s t ⟨hst, hlog⟩
    exact ⟨hst, by rw [hlog]; exact h.refl _⟩

theorem carries_run (size : PartSize) (parts : List Part) (count : Int) :
    Carries (Paired P R) (run size parts count progress) := by
  have hb := onward_paired hP h
  exact hb.bind (hb.ofExcept _) fun _ => hb.bind (paired_tell hP h rfl) fun _ =>
    carries_sendAll hP h hread _ _ _ _

end Transfer

end Steps

/-- A transfer leaves temp files alone, from wherever its bytes come. -/
theorem Coordinator.carries_transfer [Reader ρ] [DriveService α] {progress : Option (Progress α)}
    {R : Logged α → Logged α → Prop} (h : Calm progress R) (c : Coordinator) (outcome : Outcome)
    (count : Nat) :
    Carries (Scene.Kept R)
      (c.transfer outcome count progress : Act (Scene ρ α) Nat) := by
  have replayed : ∀ ask, Carries (fun _ _ => True)
      (Reader.read ask : Step (Replay ρ) (Option ByteArray)) :=
    fun ask r => (ends_run _ _).mono (fun _ _ _ => trivial) fun _ _ _ => trivial
  unfold transfer
  split
  · exact carries_part (Transfer.carries_run Spill.onward_same h Spill.carries_read _ _ _)
      fun _ _ hst => ⟨hst.stream, hst.service⟩
  · exact carries_part
      (Transfer.carries_run ⟨fun _ => trivial, fun _ _ => trivial⟩ h replayed _ _ _)
      fun s _ hst => ⟨Spill.onward_same.refl s.state.spill, hst.service⟩

/-! ### Sources and completions -/

/-- Opening a source tells nothing about temp files. -/
theorem Source.carries_enter {σ : Type} {R : Logged σ → Logged σ → Prop} (hR : Onward R)
    (htell : ∀ s (line : Log.Line), line.change = 0 → R s { s with log := s.log.push line })
    (disk : Disk) (name : Option String) (size : Option Int) (o : Origin ρ) :
    Carries R (enter disk name size o) := by
  have resolved :
      Carries R (resolve disk name size o : Act σ (Opened ρ × String × Option Int)) := by
    cases o with
    | path path =>
      exact hR.bind (hR.ofExcept _) fun bytes => hR.bind (hR.ofExcept _) fun digits =>
        hR.bind (carries_tell fun s => htell s _ rfl) fun _ => hR.pure _
    | bytes bytes => exact hR.pure _
    | stream r => exact hR.pure _
    | text => exact hR.fail _
    | unsupported kind => exact hR.fail _
    | blocking b =>
      unfold resolve
      cases size with
      | some n => exact hR.pure _
      | none =>
        dsimp only
        cases Blocking.remaining b with
        | ok n b => exact hR.pure _
        | error e b => exact hR.fail _
  refine hR.bind resolved fun opened => ?_
  dsimp only
  split
  · exact hR.fail _
  · cases opened.2.2 with
    | none => exact hR.fail _
    | some n =>
      dsimp only
      split
      · exact hR.fail _
      · exact hR.pure _

/-- Completing is one call, and tells nothing about temp files. -/
theorem Completion.carries_complete [DriveService α] {R : Logged α → Logged α → Prop}
    (hR : Onward R)
    (htell : ∀ s (line : Log.Line), line.change = 0 → R s { s with log := s.log.push line })
    (hcall : ∀ driveId fileId uploadId,
      Carries R (DriveService.completeUpload driveId fileId uploadId))
    (driveId : Json) (session : Session) : Carries R (complete driveId session) := by
  refine hR.bind (hR.ofExcept _) fun _ => hR.bind (hR.ofExcept _) fun _ =>
    hR.bind (carries_tell fun s => htell s _ rfl) fun _ => hR.bind (hcall _ _ _) fun answer =>
      hR.bind (hR.ofExcept _) fun _ => ?_
  split
  · exact hR.bind (carries_tell fun s => htell s _ rfl) fun _ => hR.pure _
  · exact hR.bind (carries_tell fun s => htell s _ rfl) fun _ => hR.fail _

end RapidUpload
