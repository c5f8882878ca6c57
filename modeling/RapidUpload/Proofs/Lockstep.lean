import RapidUpload.Upload
import RapidUpload.Proofs.Parallel
import RapidUpload.Proofs.Opening
import RapidUpload.Proofs.Storage

/-!
# Uploads in step

Nothing in an upload looks into its stream or its service but through their operations.  So two
uploads go in step where their streams and their services do.  The proofs they show may differ where
the services answer them alike: the spills stand at two places then until they are rewound.

* `Services V`: services go in step under `V`, whatever is asked of them, and hold one token.
* `Peers told limits Sized V`: services go in step under `V`, whatever proofs they are shown.
* `Streams told config S T`: streams under `S`, and replays of them under `T`, go in step for the
  counts that are read from them.
* `Coordinator.upload_beside`: uploads from such streams to such services go in step.
-/

namespace RapidUpload

open Step

variable {ρ π α α' : Type}

/-! ### Spills at two places -/

/-- The same spill, with its file at one place or at two. -/
inductive Spill.Akin : Spill → Spill → Prop where
  | refl (s : Spill) : Akin s s
  | moved (s : Spill) (cursor : FileCursor) (position position' : Nat) :
    Akin (s.onto { cursor with position := position })
      (s.onto { cursor with position := position' })

namespace Spill

variable {told : Prop} {s t : Spill} {log log' : Array Log.Line}

theorem Akin.of_eq (h : s = t) : Akin s t := h ▸ .refl s

/-- Once they are rewound both stand at one place. -/
theorem Akin.alike_rewind (h : Akin s t) : Alike Eq Eq (rewind s) (rewind t) := by
  cases h with
  | refl => exact alike_refl _
  | moved spill cursor position position' =>
    rw [rewind_onto, rewind_onto]
    exact .ok rfl rfl

/-- Removing the files of equal spills tells the same. -/
theorem beside_removeFile (s : Spill) (hlog : told → log = log') :
    Beside told Eq (removeFile ⟨s, log⟩) (removeFile ⟨s, log'⟩) := by
  unfold removeFile
  dsimp only
  split
  · exact .mk rfl hlog
  · split
    · exact .mk rfl hlog
    · exact .mk rfl fun ht => by rw [hlog ht]
    · exact .mk rfl fun ht => by rw [hlog ht]

/-- Of such spills the same is left behind. -/
theorem Akin.beside_cleanup (h : Akin s t) (hlog : told → log = log') :
    Beside told Eq (cleanup ⟨s, log⟩) (cleanup ⟨t, log'⟩) := by
  unfold cleanup
  cases h with
  | refl =>
    have hclosed : Beside told Eq (closeFile ⟨s, log⟩) (closeFile ⟨s, log'⟩) := by
      unfold closeFile
      dsimp only
      split
      · exact .mk rfl hlog
      · refine .mk rfl fun ht => ?_
        rw [hlog ht]
    generalize closeFile ⟨s, log⟩ = x at hclosed
    generalize closeFile ⟨s, log'⟩ = y at hclosed
    obtain ⟨rfl, hlog⟩ := hclosed
    exact beside_removeFile _ hlog
  | moved => exact beside_removeFile _ hlog

end Spill

/-! ### Related services and scenes -/

/-- Related services give one answer to each request, and are related after it. -/
structure Services [DriveService α] [DriveService α'] (V : α → α' → Prop) : Prop where
  accessToken : ∀ {a a'}, V a a' → DriveService.accessToken a = DriveService.accessToken a'
  createUpload : ∀ body, InStep Eq (Told V) (DriveService.createUpload body)
    (DriveService.createUpload body)
  uploadPart : ∀ url bytes, InStep Eq (Told V) (DriveService.uploadPart url bytes)
    (DriveService.uploadPart url bytes)
  completeUpload : ∀ driveId fileId uploadId,
    InStep Eq (Told V) (DriveService.completeUpload driveId fileId uploadId)
      (DriveService.completeUpload driveId fileId uploadId)

namespace Evidence

/-- Evidence without its proof. -/
def unproved : Evidence → Evidence
  | .fullHash hash _ version hashName => .fullHash hash "" version hashName
  | e => e

/-- The same evidence but for the proof; where `told` holds with the same proof. -/
structure Akin (told : Prop) (e e' : Evidence) : Prop where
  unproved : e.unproved = e'.unproved
  eq : told → e = e'

theorem Akin.refl (told : Prop) (e : Evidence) : e.Akin told e := ⟨rfl, fun _ => rfl⟩

end Evidence

/-- Related services give one answer to each request, whatever its proof is, and are related after
it.  By their tokens a proof is given of all sizes with `Sized`, or of none, where files have these
limits. -/
structure Peers [DriveService α] [DriveService α'] (told : Prop) (limits : FileLimits)
    (Sized : Int → Prop) (V : α → α' → Prop) : Prop where
  prove : ∀ {a a'} {spill : Spill} {content : ByteArray} {size : Int}, V a a' →
    spill.Stores limits content → Sized size →
    Alike (fun window window' => told → window = window') Spill.Akin
      (Possession.prove ((DriveService.accessToken a).getD "") size spill)
      (Possession.prove ((DriveService.accessToken a').getD "") size spill)
  createUpload : ∀ (request : Request) {e e' : Evidence}, e.Akin told e' →
    InStep Eq (Beside told V) (DriveService.createUpload (request.body (some e)))
      (DriveService.createUpload (request.body (some e')))
  uploadPart : ∀ url bytes, InStep Eq (Beside told V) (DriveService.uploadPart url bytes)
    (DriveService.uploadPart url bytes)
  completeUpload : ∀ driveId fileId uploadId,
    InStep Eq (Beside told V) (DriveService.completeUpload driveId fileId uploadId)
      (DriveService.completeUpload driveId fileId uploadId)

/-- Services that hold one token are shown the same proofs. -/
theorem Services.peers [DriveService α] [DriveService α'] {V : α → α' → Prop} (h : Services V)
    (limits : FileLimits) : Peers True limits (fun _ => True) V where
  prove hV _ _ := by
    rw [h.accessToken hV]
    exact Agree.mono (alike_refl _) (fun _ _ _ _ ⟨hw, hs⟩ => ⟨fun _ => hw, .of_eq hs⟩)
      fun _ _ hs => .of_eq hs
  createUpload request _ _ he := by
    rw [he.eq trivial]
    exact h.createUpload _
  uploadPart := h.uploadPart
  completeUpload := h.completeUpload

/-- Two callbacks go in step, or there is none. -/
def Tellers (told : Prop) (V : α → α' → Prop) :
    Option (Progress α) → Option (Progress α') → Prop :=
  Option.Rel fun tell tell' => ∀ n, InStep Eq (Beside told V) (tell n) (tell' n)

/-- Scenes are related part by part. -/
structure Scene.Match (T : Replay ρ → Replay π → Prop) (V : α → α' → Prop)
    (P : Spill → Spill → Prop) (s : Scene ρ α) (t : Scene π α') : Prop where
  stream : T s.stream t.stream
  service : V s.service t.service
  spill : P s.spill t.spill
  stage : s.stage = t.stage

/-- The same bytes wait in two replays, and the streams behind them are related. -/
structure Stacked (S : ρ → π → Prop) (r : Replay ρ) (r' : Replay π) : Prop where
  buffer : r.buffer = r'.buffer
  position : r.position = r'.position
  inner : S r.inner r'.inner

theorem stacked_mk {S : ρ → π → Prop} {r : ρ} {r' : π} (h : S r r') (buffer : ByteArray)
    (position : Nat) : Stacked S ⟨buffer, position, r⟩ ⟨buffer, position, r'⟩ := ⟨rfl, rfl, h⟩

/-- How streams must be related for uploads from them to go in step: so are the replays of them,
and each reads the same and stays related. -/
structure Streams [Reader ρ] [Reader π] (told : Prop) (config : UploadConfig) (S : ρ → π → Prop)
    (T : Replay ρ → Replay π → Prop) : Prop where
  sample : InStep Eq S (Reader.readUpTo config.sampler.budget)
    (Reader.readUpTo config.sampler.budget)
  replay : ∀ {r r'}, Stacked S r r' → T r r'
  slice : InStep Eq T (Reader.readUpTo config.partSize.bytes)
    (Reader.readUpTo config.partSize.bytes)
  absorb : ∀ {r r'} {spill : Spill} {log log'}, T r r' → spill.handle = none →
    (told → log = log') → Alike Eq (Beside told (Both T Eq)) (Spill.absorb ⟨(r, spill), log⟩)
      (Spill.absorb ⟨(r', spill), log'⟩)

/-- Spills without a file, over one disk whose files have the limits. -/
def Spill.Unused (limits : FileLimits) (s t : Spill) : Prop :=
  s = t ∧ s.handle = none ∧ s.disk.limits = limits

namespace Scene

variable {T T' : Replay ρ → Replay π → Prop} {V : α → α' → Prop} {P P' : Spill → Spill → Prop}

theorem Match.mono {s : Scene ρ α} {t : Scene π α'} (h : Match T V P s t)
    (hT : ∀ r r', T r r' → T' r r') (hP : ∀ p p', P p p' → P' p p') : Match T' V P' s t :=
  ⟨hT _ _ h.stream, h.service, hP _ _ h.spill, h.stage⟩

theorem follows_service : Follows (Match T V P) V theService theService :=
  ⟨fun _ _ h => h.service, fun _ _ _ _ h h' => ⟨h.stream, h', h.spill, h.stage⟩⟩

theorem follows_inner {S : ρ → π → Prop} : Follows (Match (Stacked S) V P) S inner inner where
  get _ _ h := h.stream.inner
  set _ _ _ _ h h' := ⟨⟨h.stream.buffer, h.stream.position, h'⟩, h.service, h.spill, h.stage⟩

theorem follows_stream : Follows (Match T V P) T theStream theStream :=
  ⟨fun _ _ h => h.stream, fun _ _ _ _ h h' => ⟨h', h.service, h.spill, h.stage⟩⟩

end Scene

/-! ### Negotiations in step -/

namespace Negotiator

variable {told : Prop} {T : Replay ρ → Replay π → Prop} {V : α → α' → Prop}
  {P : Spill → Spill → Prop}

/-- What two negotiations in step come to: one outcome, from scenes whose spills stand at one place
where the bytes come from them. -/
structure Settled (told : Prop) (T : Replay ρ → Replay π → Prop) (V : α → α' → Prop)
    (out out' : Outcome) (s : Logged (Scene ρ α)) (t : Logged (Scene π α')) : Prop where
  outcome : out = out'
  scenes : Beside told (Scene.Match T V Spill.Akin) s t
  spill : out.supply = some .spill → s.state.spill = t.state.spill

/-- Where the bytes do not come from the spills, these may stand anywhere. -/
theorem settled_of_alike {supply : Option Supply} {x : EStateM.Result Fault _ Outcome}
    {y : EStateM.Result Fault _ Outcome} (hs : supply ≠ some .spill)
    (h : Alike (fun out out' => out = out' ∧ out.supply = supply)
      (Beside told (Scene.Match T V Spill.Akin)) x y) :
    Agree (Settled told T V) (Beside told (Scene.Match T V Spill.Akin)) x y :=
  Agree.mono h (fun _ _ _ _ ⟨⟨ho, hsup⟩, h⟩ => ⟨ho, h, fun hspill => (hs (hsup ▸ hspill)).elim⟩)
    fun _ _ h => h

theorem inStep_enter (stage : Stage) :
    InStep Eq (Beside told (Scene.Match T V P)) (enter stage) (enter stage) :=
  inStep_change fun _ _ h => ⟨h.stream, h.service, h.spill, rfl⟩

theorem inStep_confirm (request : Request) (stage : Stage) (answer : Answer) :
    InStep (fun out out' => out = out' ∧ out.supply = none) (Beside told (Scene.Match T V P))
      (confirm request stage answer) (confirm request stage answer) := by
  unfold confirm
  refine (inStep_enter stage).bind fun _ _ _ => ?_
  exact (inStep_tell _ _ _).bind fun _ _ _ => inStep_pure ⟨rfl, rfl⟩

theorem inStep_requireTransfer (answer : Answer) (supply : Supply) :
    InStep (fun out out' => out = out' ∧ out.supply = some supply)
      (Beside told (Scene.Match T V P)) (requireTransfer answer supply)
      (requireTransfer answer supply) := by
  unfold requireTransfer
  split
  · exact inStep_fail _
  · refine (inStep_ofExcept _).bind ?_
    rintro fileId _ rfl
    exact (inStep_tell _ _ _).bind fun _ _ _ => inStep_pure ⟨rfl, rfl⟩

/-- Bytes are required from spills once these are rewound. -/
theorem agree_requireSpill (answer : Answer) {s : Logged (Scene ρ α)} {t : Logged (Scene π α')}
    (hst : Beside told (Scene.Match T V Spill.Akin) s t) :
    Agree (Settled told T V) (Beside told (Scene.Match T V Spill.Akin))
      ((do
        enter .transferRequired
        Act.within Scene.theSpill (Act.quiet Spill.rewind)
        requireTransfer answer .spill : Act (Scene ρ α) Outcome) s)
      ((do
        enter .transferRequired
        Act.within Scene.theSpill (Act.quiet Spill.rewind)
        requireTransfer answer .spill : Act (Scene π α') Outcome) t) := by
  have widen : ∀ (s : Logged (Scene ρ α)) (t : Logged (Scene π α')),
      Beside told (Scene.Match T V Eq) s t → Beside told (Scene.Match T V Spill.Akin) s t :=
    Beside.mono fun s t h => h.mono (fun _ _ h => h) fun _ _ h => .of_eq h
  refine (inStep_enter _ s t hst).bind (fun _ _ _ s t hst => ?_) fun _ _ h => h
  obtain ⟨hst, hlog⟩ := hst
  have hrewind := (hst.spill.alike_rewind.quiet hlog).part (R := Scene.Match T V Eq)
    (f := Scene.theSpill) (g := Scene.theSpill)
    fun p q hpq => ⟨hst.stream, hst.service, hpq, hst.stage⟩
  refine hrewind.bind (fun _ _ _ s t hst => ?_) widen
  refine Agree.mono (inStep_requireTransfer answer .spill s t hst) ?_ widen
  exact fun _ _ s t ⟨ho, hst⟩ => ⟨ho.1, widen s t hst, fun _ => hst.state.spill⟩

variable [DriveService α] [DriveService α'] {limits : FileLimits} {Sized : Int → Prop}

theorem inStep_submit (hV : Peers told limits Sized V) (request : Request) {e e' : Evidence}
    (he : e.Akin told e') :
    InStep Eq (Beside told (Scene.Match T V P)) (submit request e) (submit request e') := by
  unfold submit
  refine ((hV.createUpload _ he).part Scene.follows_service).outcome.bind ?_
  rintro result _ rfl
  cases result with
  | ok j =>
    refine (inStep_ofExcept _).bind ?_
    rintro answer _ rfl
    exact inStep_pure rfl
  | error e =>
    cases e with
    | rejected r =>
      refine (inStep_ofExcept _).bind ?_
      rintro challenge _ rfl
      cases challenge with
      | true => exact inStep_pure rfl
      | false => exact (inStep_tell _ _ _).bind fun _ _ _ => inStep_fail _
    | _ => exact inStep_fail _

variable [Reader ρ] [Reader π]

/-- The second phase goes in step where the streams are absorbed in step. -/
theorem agree_prove (hV : Peers told limits Sized V) {request : Request}
    (hsize : Sized request.size)
    (previous : Option Answer) {s : Scene ρ α} {t : Scene π α'} {log log' : Array Log.Line}
    (hs : s.spill.handle = none) (hl : s.spill.disk.limits = limits)
    (ha : Alike Eq (Beside told (Both T Eq)) (Spill.absorb ⟨(s.stream, s.spill), log⟩)
      (Spill.absorb ⟨(t.stream, t.spill), log'⟩))
    (hst : Scene.Match T V P s t) :
    Agree (Settled told T V) (Beside told (Scene.Match T V Spill.Akin))
      (prove request previous ⟨s, log⟩) (prove request previous ⟨t, log'⟩) := by
  have widen : ∀ (s : Logged (Scene ρ α)) (t : Logged (Scene π α')),
      Beside told (Scene.Match T V Eq) s t → Beside told (Scene.Match T V Spill.Akin) s t :=
    Beside.mono fun s t h => h.mono (fun _ _ h => h) fun _ _ h => .of_eq h
  unfold prove
  have habsorb := ha.part (R := Scene.Match T V Eq) (s := s) (t := t)
    (f := Scene.theStream.both Scene.theSpill) (g := Scene.theStream.both Scene.theSpill)
    fun p q hpq => ⟨hpq.fst, hst.service, hpq.snd, hst.stage⟩
  -- the spills store the same then
  have hstored : Ends (Act.within (Scene.theStream.both Scene.theSpill) Spill.absorb) ⟨s, log⟩
      (fun _ u => ∃ taken, u.state.spill.Stores limits taken) fun _ _ => True := by
    refine ends_part.mpr ((Spill.absorb_ends s.stream hs log).mono ?_ fun _ _ _ => trivial)
    rintro hasher u ⟨taken, -, hstores, -⟩
    exact ⟨taken, hl ▸ hstores⟩
  refine (habsorb.and_left hstored).bind ?_ widen
  rintro hasher _ _ _ ⟨⟨rfl, hst, hlog⟩, taken, hstores⟩
  have hloaded := Beside.mk (R := Scene.Match T V fun p q => p = q ∧ p.Stores limits taken)
    ⟨hst.stream, hst.service, ⟨hst.spill, hstores⟩, hst.stage⟩ hlog
  have widen' : ∀ (s : Logged (Scene ρ α)) (t : Logged (Scene π α')),
      Beside told (Scene.Match T V fun p q => p = q ∧ p.Stores limits taken) s t →
      Beside told (Scene.Match T V Spill.Akin) s t :=
    Beside.mono fun s t h => h.mono (fun _ _ h => h) fun _ _ h => .of_eq h.1
  refine agree_tell_if hloaded (fun s t hst => ?_) widen'
  refine (inStep_look s t hst).bind (fun scene scene' hscene _ _ hst => ?_) widen'
  obtain ⟨hst, hlog⟩ := hst
  rename_i s t log log'
  have hproof : Alike (fun window window' => told → window = window') (Beside told Spill.Akin)
      (Act.quiet (Possession.prove ((DriveService.accessToken scene.service).getD "") request.size)
        ⟨s.spill, log⟩)
      (Act.quiet (Possession.prove ((DriveService.accessToken scene'.service).getD "") request.size)
        ⟨t.spill, log'⟩) := by
    rw [← hst.spill.1]
    exact (hV.prove hscene.service hst.spill.2 hsize).quiet hlog
  have hwindow := hproof.part (R := Scene.Match T V Spill.Akin) (f := Scene.theSpill)
    (g := Scene.theSpill) (s := s) (t := t)
    fun p q hpq => ⟨hst.stream, hst.service, hpq, hst.stage⟩
  refine hwindow.bind (fun window window' hw s t hst => ?_) fun _ _ h => h
  refine (inStep_tell_apart (fun ht => by rw [hw ht]) s t hst).bind (fun _ _ _ s t hst => ?_)
    fun _ _ h => h
  have hevidence : (Evidence.fullHash (hasher.hex sha1) window.encoded Possession.version
      "sha1").Akin told (.fullHash (hasher.hex sha1) window'.encoded Possession.version "sha1") :=
    ⟨rfl, fun ht => by rw [hw ht]⟩
  refine (inStep_submit hV _ hevidence s t hst).bind ?_ fun _ _ h => h
  rintro verdict _ rfl s t hst
  cases verdict with
  | accepted answer =>
    dsimp only
    split
    · exact settled_of_alike (by decide) (inStep_confirm _ _ _ s t hst)
    · exact agree_requireSpill _ hst
  | challenged challenge =>
    refine (inStep_tell _ _ _ s t hst).bind (fun _ _ _ s t hst => ?_) fun _ _ h => h
    refine (inStep_ofExcept _ s t hst).bind ?_ fun _ _ h => h
    rintro answer _ rfl s t hst
    exact agree_requireSpill _ hst

theorem inStep_sample {config : UploadConfig} {S : ρ → π → Prop} (hS : Streams told config S T) :
    InStep Eq (Beside told S) config.sampler.sample config.sampler.sample := by
  unfold Sampler.sample
  refine hS.sample.quiet.bind ?_
  rintro bytes _ rfl
  exact (inStep_tell _ _ _).bind fun _ _ _ => inStep_pure rfl

/-- **Negotiations go in step**, from the streams on. -/
theorem agree_negotiate {config : UploadConfig} {S : ρ → π → Prop} (hS : Streams told config S T)
    (hV : Peers told limits Sized V) (rapid : Bool) (request : Request) (hsize : Sized request.size)
    {r : ρ} {r' : π} (hr : S r r') {s : Scene ρ α} {t : Scene π α'}
    (hservice : V s.service t.service) (hspill : Spill.Unused limits s.spill t.spill)
    {log log' : Array Log.Line} (hlog : told → log = log') :
    Agree (Settled told T V) (Beside told (Scene.Match T V Spill.Akin))
      (negotiate ⟨rapid, config.sampler⟩ request r ⟨s, log⟩)
      (negotiate ⟨rapid, config.sampler⟩ request r' ⟨t, log'⟩) := by
  have widen : ∀ (s : Logged (Scene ρ α)) (t : Logged (Scene π α')),
      Beside told (Scene.Match (Stacked S) V (Spill.Unused limits)) s t →
      Beside told (Scene.Match T V Spill.Akin) s t :=
    Beside.mono fun s t h => h.mono (fun _ _ h => hS.replay h) fun _ _ h => .of_eq h.1
  unfold negotiate
  -- only the streams behind the replays are related until a phase reads from the replays
  have hstart : Alike Eq (Beside told (Scene.Match (Stacked S) V (Spill.Unused limits)))
      (Act.change (fun s : Scene ρ α => { s with stream := .bare r, stage := .prehashPending })
        ⟨s, log⟩)
      (Act.change (fun t : Scene π α' => { t with stream := .bare r', stage := .prehashPending })
        ⟨t, log'⟩) := .ok rfl (.mk ⟨stacked_mk hr _ _, hservice, hspill, rfl⟩ hlog)
  refine hstart.bind (fun _ _ _ => ?_) widen
  have proves : ∀ previous (s : Logged (Scene ρ α)) (t : Logged (Scene π α')),
      Beside told (Scene.Match (Stacked S) V (Spill.Unused limits)) s t →
      Agree (Settled told T V) (Beside told (Scene.Match T V Spill.Akin))
        (prove request previous s) (prove request previous t) := by
    rintro previous _ _ ⟨h, hlog⟩
    have hspill := h.spill
    refine agree_prove hV hsize previous hspill.2.1 hspill.2.2 ?_
      (h.mono (fun _ _ h => hS.replay h) fun _ _ h => h.1)
    rw [← hspill.1]
    exact hS.absorb (hS.replay h.stream) hspill.2.1 hlog
  cases rapid with
  | false => exact proves none
  | true =>
    intro s t hst
    refine ((inStep_sample hS).part Scene.follows_inner s t hst).bind ?_ widen
    rintro sample _ rfl s t hst
    have hchange : InStep Eq (Beside told (Scene.Match (Stacked S) V (Spill.Unused limits)))
        (Act.change fun s : Scene ρ α => { s with stream := sample.replay s.stream.inner })
        (Act.change fun t : Scene π α' => { t with stream := sample.replay t.stream.inner }) :=
      inStep_change fun _ _ h => ⟨stacked_mk h.stream.inner _ _, h.service, h.spill, h.stage⟩
    refine (hchange s t hst).bind (fun _ _ _ s t hst => ?_) widen
    refine (inStep_ofExcept _ s t hst).bind ?_ widen
    rintro declared _ rfl s t hst
    refine (inStep_tell _ _ _ s t hst).bind (fun _ _ _ s t hst => ?_) widen
    refine (inStep_submit hV request (.refl _ _) s t hst).bind ?_ widen
    rintro verdict _ rfl s t hst
    cases verdict with
    | challenged challenge =>
      refine (inStep_tell _ _ _ s t hst).bind (fun _ _ _ s t hst => ?_) widen
      refine (inStep_enter _ s t hst).bind (fun _ _ _ s t hst => ?_) widen
      refine (inStep_ofExcept _ s t hst).bind ?_ widen
      rintro previous _ rfl s t hst
      exact proves (some previous) s t hst
    | accepted answer =>
      have hst := widen s t hst
      dsimp only
      split
      · exact settled_of_alike (by decide) (inStep_confirm _ _ _ s t hst)
      · refine (inStep_enter _ s t hst).bind (fun _ _ _ s t hst => ?_) fun _ _ h => h
        exact settled_of_alike (by decide) (inStep_requireTransfer _ _ s t hst)

end Negotiator

/-! ### Transfers in step -/

namespace Transfer

variable {told : Prop} {T : ρ → π → Prop} {V : α → α' → Prop} {progress : Option (Progress α)}
  {progress' : Option (Progress α')}

theorem inStep_report (hp : Tellers told V progress progress') (n : Nat) (count : Int) :
    InStep Eq (Beside told (Both T V)) (report progress n count) (report progress' n count) := by
  unfold report
  cases hp with
  | none => cases percent n count <;> exact inStep_pure rfl
  | some h =>
    cases percent n count with
    | none => exact inStep_pure rfl
    | some p => exact (h p).part follows_second

variable [DriveService α] [DriveService α'] {limits : FileLimits} {Sized : Int → Prop}

theorem inStep_send (hV : Peers told limits Sized V) (part : Part) (bytes : ByteArray) :
    InStep Eq (Beside told (Both T V)) (send part bytes) (send part bytes) := by
  unfold send
  refine (inStep_ofExcept _).bind ?_
  rintro size _ rfl
  refine (inStep_ofExcept _).bind ?_
  rintro number _ rfl
  refine (inStep_tell _ _ _).bind fun _ _ _ => ?_
  refine ((hV.uploadPart _ _).part follows_second).outcome.bind ?_
  rintro result _ rfl
  cases result with
  | ok => exact inStep_tell _ _ _
  | error e => exact (inStep_tell _ _ _).bind fun _ _ _ => inStep_fail _

variable [Reader ρ] [Reader π]

/-- Parts go in step where their slices do. -/
theorem inStep_sendAll {size : PartSize}
    (hT : InStep Eq T (Reader.readUpTo size.bytes) (Reader.readUpTo size.bytes))
    (hV : Peers told limits Sized V)
    (hp : Tellers told V progress progress') (count : Int) (parts : List Part) (n : Nat) :
    InStep Eq (Beside told (Both T V)) (sendAll size count progress parts n)
      (sendAll size count progress' parts n) := by
  induction parts generalizing n with
  | nil => exact inStep_pure rfl
  | cons part parts ih =>
    unfold sendAll
    refine (hT.quiet.part follows_first).bind ?_
    rintro bytes _ rfl
    refine (inStep_send hV part bytes).bind fun _ _ _ => ?_
    exact (inStep_report hp _ count).bind fun _ _ _ => ih (n + 1)

theorem inStep_run {size : PartSize}
    (hT : InStep Eq T (Reader.readUpTo size.bytes) (Reader.readUpTo size.bytes))
    (hV : Peers told limits Sized V)
    (hp : Tellers told V progress progress') (parts : List Part) (count : Int) :
    InStep Eq (Beside told (Both T V)) (run size parts count progress)
      (run size parts count progress') := by
  unfold run
  refine (inStep_ofExcept _).bind ?_
  rintro total _ rfl
  exact (inStep_tell _ _ _).bind fun _ _ _ => inStep_sendAll hT hV hp count _ 0

end Transfer

/-! ### Uploads in step -/

/-- Sites are related by their services, and have one disk. -/
structure Site.Match (V : α → α' → Prop) (s : Site α) (t : Site α') : Prop where
  service : V s.service t.service
  disk : s.disk = t.disk

theorem Site.follows_service {V : α → α' → Prop} : Follows (Match V) V theService theService :=
  ⟨fun _ _ h => h.service, fun _ _ _ _ h h' => ⟨h', h.disk⟩⟩

theorem Completion.inStep_complete [DriveService α] [DriveService α'] {told : Prop}
    {limits : FileLimits} {Sized : Int → Prop} {V : α → α' → Prop}
    (hV : Peers told limits Sized V) (driveId : Json) (session : Session) :
    InStep Eq (Beside told V) (complete driveId session) (complete driveId session) := by
  unfold complete
  refine (inStep_ofExcept _).bind ?_
  rintro uploadId _ rfl
  refine (inStep_ofExcept _).bind ?_
  rintro fileId _ rfl
  refine (inStep_tell _ _ _).bind fun _ _ _ => (hV.completeUpload _ _ _).bind ?_
  rintro answer _ rfl
  refine (inStep_ofExcept _).bind ?_
  rintro told _ rfl
  refine InStep.ite ?_ ?_
  · exact (inStep_tell _ _ _).bind fun _ _ _ => inStep_pure rfl
  · exact (inStep_tell _ _ _).bind fun _ _ _ => inStep_fail _

/-- Two calls ask for the same: their callbacks go in step, and their origins open to related
streams of one name and size. -/
structure UploadCall.Match (told : Prop) (S : Opened ρ → Opened π → Prop) (V : α → α' → Prop)
    (call : UploadCall ρ α) (call' : UploadCall π α') : Prop where
  parentId : call.parentId = call'.parentId
  rapid : call.rapid = call'.rapid
  progress : Tellers told V call.progress call'.progress
  origin : ∀ disk, InStep (fun x y => S x.1 y.1 ∧ x.2 = y.2) (Beside told (Site.Match V))
    (Source.resolve disk call.name call.size call.origin)
    (Source.resolve disk call'.name call'.size call'.origin)

/-- The sizes a call's origin can be opened with. -/
def UploadCall.Opens (call : UploadCall ρ α) (Sized : Int → Prop) : Prop :=
  ∀ disk (s : Logged (Site α)),
    Ends (Source.resolve disk call.name call.size call.origin) s
      (fun opened _ => ∀ size ∈ opened.2.2, Sized size) fun _ _ => True

theorem UploadCall.opens (call : UploadCall ρ α) : call.Opens fun _ => True := fun _ s =>
  (ends_run _ s).mono (fun _ _ _ _ _ => trivial) fun _ _ _ => trivial

/-- Scenes of related sites go in step as the sites do. -/
theorem Site.alike_withScene {β : Type} {told : Prop} {T : Replay ρ → Replay π → Prop}
    {V : α → α' → Prop} {folder : Option String} {stream : ρ} {stream' : π}
    {body : Act (Scene ρ α) β} {body' : Act (Scene π α') β} {s : Logged (Site α)}
    {t : Logged (Site α')} {limits : FileLimits} (hst : Beside told (Site.Match V) s t)
    (hlimits : s.state.disk.limits = limits)
    (h : ∀ {s : Scene ρ α} {t : Scene π α'} {log log'}, (told → log = log') →
      V s.service t.service → Spill.Unused limits s.spill t.spill →
      Alike Eq (Beside told (Scene.Match T V Spill.Akin)) (body ⟨s, log⟩) (body' ⟨t, log'⟩)) :
    Alike Eq (Beside told (Site.Match V)) (withScene folder stream body s)
      (withScene folder stream' body' t) := by
  obtain ⟨⟨hservice, hdisk⟩, hlog⟩ := hst
  rename_i s t log log'
  obtain ⟨service, disk⟩ := s
  obtain ⟨service', disk'⟩ := t
  cases hdisk
  have hbody := h (s := ⟨.bare stream, service, .new disk folder, .prehashPending⟩)
    (t := ⟨.bare stream', service', .new disk folder, .prehashPending⟩) hlog hservice
      ⟨rfl, rfl, hlimits⟩
  -- whatever became of the spills, the same is left of them
  have cleaned : ∀ {s : Scene ρ α} {t : Scene π α'} {log log'},
      Scene.Match T V Spill.Akin s t → (told → log = log') →
      Beside told (Site.Match V)
        ⟨⟨s.service, (Spill.cleanup ⟨s.spill, log⟩).state.disk⟩,
          (Spill.cleanup ⟨s.spill, log⟩).log⟩
        ⟨⟨t.service, (Spill.cleanup ⟨t.spill, log'⟩).state.disk⟩,
          (Spill.cleanup ⟨t.spill, log'⟩).log⟩ := by
    intro s t log log' hst hlog
    have hclean := hst.spill.beside_cleanup hlog
    generalize Spill.cleanup ⟨s.spill, log⟩ = x at hclean
    generalize Spill.cleanup ⟨t.spill, log'⟩ = y at hclean
    obtain ⟨rfl, hlog⟩ := hclean
    exact .mk ⟨hst.service, rfl⟩ hlog
  unfold withScene
  dsimp only
  generalize body _ = x at hbody
  generalize body' _ = y at hbody
  cases hbody with
  | ok h =>
    obtain ⟨hb, h, hlog⟩ := h
    exact .ok hb (cleaned h hlog)
  | error e h =>
    obtain ⟨h, hlog⟩ := h
    exact .error e (cleaned h hlog)

/-- Origins that open to related streams are entered in step. -/
theorem Source.inStep_enter {told : Prop} {Sized : Int → Prop} {S : Opened ρ → Opened π → Prop}
    {V : α → α' → Prop} {call : UploadCall ρ α} {call' : UploadCall π α'}
    (hc : call.Match told S V call') (hsize : call.Opens Sized) (disk : Disk) :
    InStep (fun x y => S x.stream y.stream ∧ x.name = y.name ∧ x.size = y.size ∧ Sized x.size)
      (Beside told (Site.Match V)) (enter disk call.name call.size call.origin)
      (enter disk call'.name call'.size call'.origin) := by
  intro s t hst
  unfold enter
  refine ((hc.origin disk s t hst).and_left (hsize disk s)).bind ?_ fun _ _ h => h
  rintro ⟨stream, name, size⟩ ⟨stream', name', size'⟩ s t ⟨⟨⟨hstream, hlabel⟩, hst⟩, hsized⟩
  cases hlabel
  dsimp only
  split
  · exact .error _ hst
  · cases size with
    | none => exact .error _ hst
    | some n =>
      dsimp only
      split
      · exact .error _ hst
      · rename_i hn
        have hnat : ((n.toNat : Nat) : Int) = n := Int.toNat_of_nonneg (Int.not_lt.mp hn)
        exact Alike.ok ⟨hstream, rfl, rfl, hnat.symm ▸ hsized n rfl⟩ hst

namespace Coordinator

variable [Reader ρ] [Reader π] [DriveService α] [DriveService α'] {told : Prop}
  {limits : FileLimits} {Sized : Int → Prop} {V : α → α' → Prop} {progress : Option (Progress α)}
  {progress' : Option (Progress α')} {c : Coordinator}

theorem alike_transfer {S : ρ → π → Prop} {T : Replay ρ → Replay π → Prop}
    (hS : Streams told c.config S T) (hV : Peers told limits Sized V)
    (hp : Tellers told V progress progress') {outcome : Outcome} (count : Nat)
    {s : Logged (Scene ρ α)} {t : Logged (Scene π α')}
    (hst : Beside told (Scene.Match T V Spill.Akin) s t)
    (hspill : outcome.supply = some .spill → s.state.spill = t.state.spill) :
    Alike Eq (Beside told (Scene.Match T V Spill.Akin)) (c.transfer outcome count progress s)
      (c.transfer outcome count progress' t) := by
  have replayed := (Transfer.inStep_run hS.slice hV hp outcome.parts count).part
    (Scene.follows_stream.both Scene.follows_service) s t hst
  unfold transfer
  match hsupply : outcome.supply with
  | some .spill =>
    obtain ⟨hst, hlog⟩ := hst
    rename_i s t log log'
    have hrun : InStep Eq (Beside told (Both Eq V))
        (Transfer.run c.config.partSize outcome.parts count progress : Act (Spill × α) Nat)
        (Transfer.run c.config.partSize outcome.parts count progress') :=
      Transfer.inStep_run (inStep_refl _) hV hp _ _
    have hspills := hrun ⟨(s.spill, s.service), log⟩ ⟨(t.spill, t.service), log'⟩
      (.mk ⟨hspill hsupply, hst.service⟩ hlog)
    exact hspills.part (f := Scene.theSpill.both Scene.theService)
      (g := Scene.theSpill.both Scene.theService)
      fun p q hpq => ⟨hst.stream, hpq.snd, Spill.Akin.of_eq hpq.fst, hst.stage⟩
  | some .replay | none => exact replayed

theorem alike_deliver {S : ρ → π → Prop} {T : Replay ρ → Replay π → Prop}
    (hS : Streams told c.config S T) (hV : Peers told limits Sized V)
    (hp : Tellers told V progress progress') (rapid : Bool) {request : Request}
    (hsize : Sized request.size) {r : ρ} {r' : π} (hr : S r r') {s : Scene ρ α} {t : Scene π α'}
    {log log' : Array Log.Line} (hlog : told → log = log') (hservice : V s.service t.service)
    (hspill : Spill.Unused limits s.spill t.spill) :
    Alike Eq (Beside told (Scene.Match T V Spill.Akin))
      (c.deliver rapid request r progress ⟨s, log⟩)
      (c.deliver rapid request r' progress' ⟨t, log'⟩) := by
  unfold deliver
  refine (Negotiator.agree_negotiate hS hV rapid request hsize hr hservice hspill hlog).bind ?_
    fun _ _ h => h
  rintro outcome _ s t ⟨rfl, hst, hspill⟩
  refine Agree.ite (fun _ => ?_) fun _ => ?_
  · exact (inStep_tell _ _ _ s t hst).bind (fun _ _ _ s t hst => Alike.ok rfl hst) fun _ _ h => h
  · refine (alike_transfer hS hV hp _ hst hspill).bind ?_ fun _ _ h => h
    rintro sent _ rfl s t hst
    exact Alike.ok rfl hst

/-- **Uploads go in step** where their streams, their services and their calls do, over a disk whose
files have the limits. -/
theorem upload_beside {S : Opened ρ → Opened π → Prop}
    {T : Replay (Opened ρ) → Replay (Opened π) → Prop} (hS : Streams told c.config S T)
    (hV : Peers told limits Sized V) {call : UploadCall ρ α} {call' : UploadCall π α'}
    (hc : call.Match told S V call') (hsize : call.Opens Sized) {s : Logged (Site α)}
    {t : Logged (Site α')} (hst : Beside told (Site.Match V) s t)
    (hlimits : s.state.disk.limits = limits) :
    Alike Eq (Beside told (Site.Match V)) (c.upload call s) (c.upload call' t) := by
  -- up to the scene the sites stay as they are
  have sited : ∀ (s : Logged (Site α)) (t : Logged (Site α')),
      Beside told (fun s t => Site.Match V s t ∧ s.disk.limits = limits) s t →
      Beside told (Site.Match V) s t := Beside.mono fun _ _ h => h.1
  have hdisk : s.state.disk = t.state.disk := hst.state.disk
  have hopen := ((Source.inStep_enter hc hsize s.state.disk) s t hst).and_left
    ((Source.enter_ends s.state.disk call.name call.size call.origin s).mono (fun _ _ h => h.1)
      fun _ _ _ => trivial)
  unfold upload
  dsimp only
  rw [hc.rapid]
  change Agree _ _ ((Source.enter s.state.disk call.name call.size call.origin >>= _) s)
    ((Source.enter t.state.disk call'.name call'.size call'.origin >>= _) t)
  rw [← hdisk]
  refine Agree.bind hopen ?_ fun _ _ h => h
  rintro ⟨stream, name, size⟩ ⟨stream', name', size'⟩ ⟨s', log⟩ ⟨t', log'⟩
    ⟨⟨⟨hstream, rfl, rfl, hsized⟩, hst⟩, rfl⟩
  obtain ⟨hmatch, hlog⟩ := hst
  have hst := Beside.mk (R := fun s t => Site.Match V s t ∧ s.disk.limits = limits)
    ⟨hmatch, hlimits⟩ hlog
  refine (inStep_ofExcept _ _ _ hst).bind ?_ sited
  rintro text _ rfl s t hst
  refine (inStep_tell _ _ _ s t hst).bind (fun _ _ _ s t hst => ?_) sited
  rw [hc.parentId]
  refine Alike.bind (Site.alike_withScene (sited s t hst) hst.state.2 fun hlog hservice hspill =>
    alike_deliver hS hV hc.progress _ hsized hstream hlog hservice hspill) ?_ fun _ _ h => h
  rintro ⟨outcome, sent⟩ _ rfl
  change InStep Eq (Beside told (Site.Match V)) _ _
  dsimp only
  split
  · refine ((Completion.inStep_complete hV _ _).part Site.follows_service).bind ?_
    rintro response _ rfl
    exact (inStep_tell _ _ _).bind fun _ _ _ => inStep_pure rfl
  · exact inStep_pure rfl

/-- So do they where the services hold one token, and the same lines are told then. -/
theorem upload_inStep {S : Opened ρ → Opened π → Prop}
    {T : Replay (Opened ρ) → Replay (Opened π) → Prop} (hS : Streams True c.config S T)
    (hV : Services V) {call : UploadCall ρ α} {call' : UploadCall π α'}
    (hc : call.Match True S V call') :
    InStep Eq (Told (Site.Match V)) (c.upload call) (c.upload call') := fun s _ hst =>
  upload_beside hS (hV.peers s.state.disk.limits) hc call.opens hst rfl

end Coordinator

end RapidUpload
