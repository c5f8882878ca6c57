import RapidUpload.Proofs.Lifetime
import RapidUpload.Proofs.Showing

/-!
# Uploads leave no temp file behind

The lines that an upload tells and the calls that it makes, in their order, say when its temp file
stands, and the disk agrees with them.

* `Chronicled.Runs`: the story of a run, line by line and call by call.
* `Tidy`: a story in which at most one temp file stands, in its time.
* `Coordinator.upload_tidy`: whichever way an upload ends, the disk is as before, and its story is
  tidy.
-/

namespace RapidUpload

open Step

variable {ρ α β : Type}

/-- A completion was asked for. -/
def Event.isCompletion : Event → Bool
  | .complete .. => true
  | _ => false

/-- What happens in a run: a line is told, or a call is made. -/
inductive Happening (α : Type) where
  | told (line : Log.Line)
  | called (visit : Visit α)

namespace Happening

/-- How many temp files more there are by what happens. -/
def change : Happening α → Int
  | told line => line.change
  | called _ => 0

/-- A completion is asked for. -/
def isCompletion : Happening α → Bool
  | told _ => false
  | called visit => visit.event.isCompletion

/-- What leaves temp files alone, and is no completion. -/
def Quiet (x : Happening α) : Prop := x.change = 0 ∧ x.isCompletion = false

/-- How many temp files more than at the start there are by what has happened. -/
def files : List (Happening α) → Int
  | [] => 0
  | x :: rest => x.change + files rest

/-- By what has happened the full hash is due: samples are not tried, or one of them was answered by
a challenge. -/
def Due (rapid : Bool) (story : List (Happening α)) : Prop :=
  rapid = false ∨ ∃ visit, called visit ∈ story ∧ visit.IsChallenged

variable {story xs : List (Happening α)} {x : Happening α}

theorem files_append : files (story ++ xs) = files story + files xs := by
  induction story with
  | nil => exact (Int.zero_add _).symm
  | cons x story ih => rw [List.cons_append, files, files, ih, Int.add_assoc]

theorem files_concat : files (story ++ [x]) = files story + x.change :=
  files_append.trans (congrArg (files story + ·) (Int.add_zero _))

theorem files_still (h : ∀ x ∈ story, x.change = 0) : files story = 0 := by
  induction story with
  | nil => rfl
  | cons x story ih =>
    obtain ⟨hx, hs⟩ := List.forall_mem_cons.mp h
    rw [files, hx, ih hs]
    rfl

theorem Due.append {rapid : Bool} (h : Due rapid story) : Due rapid (story ++ xs) :=
  h.imp_right fun ⟨visit, hv, hc⟩ => ⟨visit, List.mem_append_left _ hv, hc⟩

end Happening

open Happening

/-- At every moment of a story there is no temp file more than at the start, or there is one and the
full hash is due; and there is none whenever a completion is asked for. -/
structure Tidy (rapid : Bool) (story : List (Happening α)) : Prop where
  one : ∀ past, past <+: story → files past = 0 ∨ files past = 1 ∧ Due rapid past
  completed : ∀ past x, past ++ [x] <+: story → x.isCompletion = true → files past = 0

namespace Tidy

variable {rapid : Bool} {story xs : List (Happening α)}

theorem nil (rapid : Bool) : Tidy rapid ([] : List (Happening α)) where
  one past h := .inl (by rw [List.prefix_nil.mp h]; rfl)
  completed past x h := by simp at h

/-- One more thing happens. -/
theorem concat {x : Happening α} (h : Tidy rapid story)
    (hf : files (story ++ [x]) = 0 ∨ files (story ++ [x]) = 1 ∧ Due rapid (story ++ [x]))
    (hx : x.isCompletion = true → files story = 0) : Tidy rapid (story ++ [x]) where
  one past hp := by
    rcases List.prefix_concat_iff.mp hp with rfl | hp
    · exact hf
    · exact h.one past hp
  completed past y hp hy := by
    rcases List.prefix_concat_iff.mp hp with heq | hp
    · obtain ⟨rfl, hxy⟩ := List.append_inj' heq rfl
      obtain rfl := List.singleton_inj.mp hxy
      exact hx hy
    · exact h.completed past y hp hy

/-- What is not about temp files may happen at any time, but a completion only while there is
none. -/
theorem append (h : Tidy rapid story) (hxs : ∀ x ∈ xs, x.change = 0)
    (hc : ∀ x ∈ xs, x.isCompletion = true → files story = 0) : Tidy rapid (story ++ xs) := by
  induction xs generalizing story with
  | nil => rwa [List.append_nil]
  | cons x xs ih =>
    obtain ⟨hx, hxs⟩ := List.forall_mem_cons.mp hxs
    obtain ⟨hcx, hc⟩ := List.forall_mem_cons.mp hc
    have hfiles : files (story ++ [x]) = files story := by rw [files_concat, hx, Int.add_zero]
    rw [List.append_cons]
    refine ih (h.concat ?_ hcx) hxs (by rwa [hfiles])
    rw [hfiles]
    exact (h.one story (List.prefix_refl _)).imp_right fun ⟨hf, hd⟩ => ⟨hf, hd.append⟩

/-- Where nothing is about temp files, and no completion is asked for. -/
theorem of_quiet (hq : ∀ x ∈ xs, Quiet x) : Tidy rapid xs :=
  (nil rapid).append (fun x hx => (hq x hx).1) fun _ _ _ => rfl

/-- A temp file is made once the full hash is due, and stands from then on. -/
theorem made {line : Log.Line} (h : ∀ x ∈ story, Quiet x) (hd : Due rapid story)
    (hl : line.change = 1) (hq : ∀ x ∈ xs, Quiet x) :
    Tidy rapid (story ++ [.told line] ++ xs) ∧ files (story ++ [.told line] ++ xs) = 1 := by
  have hone : files (story ++ [.told line]) = 1 := by
    rw [files_concat, files_still fun x hx => (h x hx).1, Int.zero_add]
    exact hl
  refine ⟨((of_quiet h).concat (.inr ⟨hone, hd.append⟩) fun hc => nomatch hc).append
    (fun x hx => (hq x hx).1) fun x hx hc => ?_, ?_⟩
  · rw [(hq x hx).2] at hc
    cases hc
  · rw [files_append, hone, files_still fun x hx => (hq x hx).1]
    rfl

/-- The temp file is gone again, and from then on nothing is about temp files. -/
theorem removed {line : Log.Line} (h : Tidy rapid story) (hone : files story = 1)
    (hl : line.change = -1) (hxs : ∀ x ∈ xs, x.change = 0) :
    Tidy rapid (story ++ [.told line] ++ xs) ∧ files (story ++ [.told line] ++ xs) = 0 := by
  have hnone : files (story ++ [.told line]) = 0 := by
    rw [files_concat, hone, show change (.told line : Happening α) = -1 from hl]
    rfl
  refine ⟨(h.concat (.inl hnone) fun hc => nomatch hc).append hxs fun _ _ _ => hnone, ?_⟩
  rw [files_append, hnone, files_still hxs]
  rfl

end Tidy

/-! ### Stories -/

namespace Chronicled

/-- The story of a run from one state to another one: each line told and each call made, in their
order. -/
inductive Runs : Logged (Chronicled α) → List (Happening α) → Logged (Chronicled α) → Prop
  | nil (a : Logged (Chronicled α)) : Runs a [] a
  | told {a b : Logged (Chronicled α)} {story : List (Happening α)} (h : Runs a story b)
    (line : Log.Line) : Runs a (story ++ [.told line]) { b with log := b.log.push line }
  | called {a b : Logged (Chronicled α)} {story : List (Happening α)} (h : Runs a story b)
    (event : Event) (after : Logged α) :
    Runs a (story ++ [.called ⟨plain b, event, after⟩]) (visited b event after)

theorem Runs.trans {a b c : Logged (Chronicled α)} {story story' : List (Happening α)}
    (h : Runs a story b) (h' : Runs b story' c) : Runs a (story ++ story') c := by
  induction h' with
  | nil => rwa [List.append_nil]
  | told _ line ih =>
    rw [← List.append_assoc]
    exact ih.told line
  | called _ event after ih =>
    rw [← List.append_assoc]
    exact ih.called event after

/-- From one state to another one only such things happen. -/
def Through (P : Happening α → Prop) (a b : Logged (Chronicled α)) : Prop :=
  ∃ story, Runs a story b ∧ ∀ x ∈ story, P x

variable {P : Happening α → Prop}

theorem Through.mono {Q : Happening α → Prop} (hPQ : ∀ x, P x → Q x) {a b : Logged (Chronicled α)}
    (h : Through P a b) : Through Q a b := by
  obtain ⟨story, hr, hp⟩ := h
  exact ⟨story, hr, fun x hx => hPQ x (hp x hx)⟩

theorem onward_through : Onward (Through P) where
  refl a := ⟨[], .nil a, fun _ h => nomatch h⟩
  trans := fun ⟨_, hr, hp⟩ ⟨_, hr', hp'⟩ =>
    ⟨_, hr.trans hr', fun x hx => (List.mem_append.mp hx).elim (hp x) (hp' x)⟩

theorem Through.told (a : Logged (Chronicled α)) {line : Log.Line} (h : P (.told line)) :
    Through P a { a with log := a.log.push line } :=
  ⟨_, (Runs.nil a).told line, List.forall_mem_singleton.mpr h⟩

theorem carries_note {event : Except Fault β → Event} {call : Act α β}
    (h : ∀ result before after, P (.called ⟨before, event result, after⟩)) :
    Carries (Through P) (note event call) := fun a =>
  ends_note.mpr ((ends_run call (plain a)).mono
    (fun b t _ => ⟨_, (Runs.nil a).called (event (.ok b)) t, List.forall_mem_singleton.mpr (h ..)⟩)
    fun e t _ =>
      ⟨_, (Runs.nil a).called (event (.error e)) t, List.forall_mem_singleton.mpr (h ..)⟩)

variable [DriveService α]

theorem calm_quiet (progress : Option (Progress α)) :
    Calm (progress.map Chronicled.progress) (Through (Quiet (α := α))) where
  toOnward := onward_through
  tell a line h := .told a ⟨h, rfl⟩
  create _ := carries_note fun _ _ _ => ⟨rfl, rfl⟩
  put _ _ := carries_note fun _ _ _ => ⟨rfl, rfl⟩
  told tell h n := by
    obtain ⟨tell', -, rfl⟩ := Option.map_eq_some_iff.mp h
    exact carries_note fun _ _ _ => ⟨rfl, rfl⟩

/-- Once the full hash is due it is due by the story so far. -/
theorem due_story {rapid : Bool} {request : Request} {a m : Logged (Chronicled α)}
    (h : Negotiator.Due rapid request (Through Quiet) a m) :
    ∃ story, Runs a story m ∧ (∀ x ∈ story, Quiet x) ∧ Due rapid story := by
  cases h with
  | alone h hm =>
    obtain ⟨story, hr, hq⟩ := hm
    exact ⟨story, hr, hq, .inl h⟩
  | @challenged x challenge previous made verdict read before after =>
    obtain ⟨story, hr, hq⟩ := before
    obtain ⟨story', hr', hq'⟩ := after
    have hcalled := hr.called (x.event request) (plain x.after)
    rw [← made.visited] at hcalled
    have hx : (x.visit request).IsChallenged :=
      ⟨_, _, _, rfl, CreateReply.of_challenged verdict read, rfl⟩
    refine ⟨_, hcalled.trans hr', ?_, .inr ⟨_, ?_, hx⟩⟩
    · refine List.forall_mem_append.mpr ⟨List.forall_mem_append.mpr ⟨hq, ?_⟩, hq'⟩
      exact List.forall_mem_singleton.mpr ⟨rfl, rfl⟩
    · exact List.mem_append_left _ (List.mem_append_right _ List.mem_cons_self)

end Chronicled

/-! ### Every upload -/

/-- From one scene to another one there is a tidy story, and the disk has as many temp files more as
it tells of. -/
def Scene.Agrees (rapid : Bool) (s t : Logged (Scene ρ (Chronicled α))) : Prop :=
  ∃ story, Chronicled.Runs (plain s) story (plain t) ∧ Tidy rapid story ∧
    (files story = 0 ∧ t.state.spill.disk = s.state.spill.disk ∨
      files story = 1 ∧ ∃ temp, s.state.spill.disk.Gains temp t.state.spill.disk)

/-- From one site to another one there is a tidy story, which ends without a temp file. -/
def Site.Tells (rapid : Bool) (s t : Logged (Site (Chronicled α))) : Prop :=
  ∃ story, Chronicled.Runs (plain s) story (plain t) ∧ Tidy rapid story ∧ files story = 0

/-- From one scene to another one nothing is told of temp files, and the full hash is due.  The disk
has a temp file more, which could not be opened. -/
def Scene.Untold (rapid : Bool) (s : Logged (Scene ρ (Chronicled α))) (e : Fault)
    (t : Logged (Scene ρ (Chronicled α))) : Prop :=
  ∃ story, Chronicled.Runs (plain s) story (plain t) ∧ (∀ x ∈ story, Quiet x) ∧
    Happening.Due rapid story ∧ (∃ temp, s.state.spill.disk.Gains temp t.state.spill.disk) ∧
    ∃ reason, e = Spill.creationFault reason

/-- From one site to another one nothing is told of temp files, and the full hash is due, until the
temp file that could not be opened is gone again, which is the end. -/
def Site.Retracts (rapid : Bool) (s : Logged (Site (Chronicled α))) (e : Fault)
    (t : Logged (Site (Chronicled α))) : Prop :=
  ∃ story line, Chronicled.Runs (plain s) (story ++ [.told line]) (plain t) ∧
    (∀ x ∈ story, Quiet x) ∧ Happening.Due rapid story ∧ Log.Line.change line = -1 ∧
    ∃ reason, e = Spill.creationFault reason

/-- The relation that asks for nothing. -/
def Everything (_ _ : Logged α) : Prop := True

theorem calm_everything [DriveService α] (progress : Option (Progress α)) :
    Calm progress Everything where
  refl _ := trivial
  trans _ _ := trivial
  tell _ _ _ := trivial
  create _ _ := (ends_run _ _).mono (fun _ _ _ => trivial) fun _ _ _ => trivial
  put _ _ _ := (ends_run _ _).mono (fun _ _ _ => trivial) fun _ _ _ => trivial
  told _ _ _ _ := (ends_run _ _).mono (fun _ _ _ => trivial) fun _ _ _ => trivial

namespace Coordinator

variable [Reader ρ] [DriveService α] (c : Coordinator)

/-- Whichever way an upload ends, the disk has the same files as before. -/
theorem upload_keeps (call : UploadCall ρ α) {s : Logged (Site α)} (hd : s.state.disk.Numbered) :
    Ends (c.upload call) s (fun _ t => s.state.disk.Keeps t.state.disk)
      fun _ t => s.state.disk.Keeps t.state.disk := by
  have hcalm := calm_everything call.progress
  have h := c.life_upload call hcalm hcalm.toOnward (fun h => h)
    (fun _ _ _ _ => (ends_run _ _).mono (fun _ _ _ => trivial) fun _ _ _ => trivial) s hd
  exact h.mono (fun _ _ => Site.Life.keeps) fun _ _ ht => ht.elim Site.Life.keeps Site.Undone.keeps

/-- Once an upload has delivered, the disk has the same files as before, whatever comes then. -/
theorem delivered_keeps (rapid : Bool) (request : Request) (stream : ρ)
    (progress : Option (Progress α)) {s : Logged (Site α)} (hd : s.state.disk.Numbered) :
    Ends (Site.withScene c.config.tempFolder stream (c.deliver rapid request stream progress)) s
      (fun _ t => s.state.disk.Keeps t.state.disk)
      fun _ t => s.state.disk.Keeps t.state.disk := by
  have hcalm := calm_everything progress
  exact Site.ends_withScene.mpr ((c.life_deliver hcalm rapid request stream _).mono
    (fun _ _ ht => (Site.Life.closed hcalm hcalm.toOnward (fun h => h) hd ht).keeps)
    fun _ _ ht => ht.elim
      (fun ht => (Site.Life.closed hcalm hcalm.toOnward (fun h => h) hd ht).keeps)
      fun ht => (Site.Undone.closed hd ht).keeps)

/-- While an upload delivers, the disk has as many temp files more as its story tells of, but for
one that cannot be opened. -/
theorem deliver_agrees (rapid : Bool) (request : Request) (stream : ρ)
    (progress : Option (Progress α)) (s : Logged (Scene ρ (Chronicled α))) :
    Ends (c.deliver rapid request stream (progress.map Chronicled.progress)) s
      (fun _ t => Scene.Agrees rapid s t)
      (fun e t => Scene.Agrees rapid s t ∨ Scene.Untold rapid s e t) := by
  have h := c.life_deliver (Chronicled.calm_quiet progress) rapid request stream s
  have agrees : ∀ {t}, Scene.Life (Negotiator.Due rapid request (Chronicled.Through Quiet)
      (Scene.plain s)) (Chronicled.Through Quiet) s t → Scene.Agrees rapid s t := by
    intro t ht
    cases ht with
    | unmade hk =>
      obtain ⟨story, hr, hq⟩ := hk.service
      exact ⟨story, hr, .of_quiet hq, .inl ⟨files_still fun x hx => (hq x hx).1, hk.spill.disk⟩⟩
    | made due told file after =>
      obtain ⟨story, hr, hq, hd⟩ := Chronicled.due_story due
      obtain ⟨story', hr', hq'⟩ := after
      obtain ⟨htidy, hone⟩ := Tidy.made hq hd told hq'
      obtain ⟨temp, hgains, -⟩ := file
      exact ⟨_, (hr.told _).trans hr', htidy, .inr ⟨hone, temp, hgains⟩⟩
  refine h.mono (fun _ _ => agrees) fun e t ht => ht.imp agrees fun hunopened => ?_
  obtain ⟨story, hr, hq, hd⟩ := Chronicled.due_story hunopened.due
  obtain ⟨temp, hgains, -⟩ := hunopened.file
  exact ⟨story, hr, hq, hd, ⟨temp, hgains⟩, hunopened.fault⟩

/-- The story of an upload is tidy, and ends without a temp file; or it ends with the removal of one
that could not be opened. -/
theorem upload_tells (call : UploadCall ρ α) {s : Logged (Site α)} (hd : s.state.disk.Numbered) :
    Ends (c.upload call.chronicled) (Site.chronicled s)
      (fun _ t => Site.Tells (c.triesRapid call) (Site.chronicled s) t)
      (fun e t => Site.Tells (c.triesRapid call) (Site.chronicled s) t ∨
        Site.Retracts (c.triesRapid call) (Site.chronicled s) e t) := by
  have weaken : ∀ {a b : Logged (Chronicled α)}, Chronicled.Through Quiet a b →
      Chronicled.Through (fun x => x.change = 0) a b := fun h => h.mono fun _ hx => hx.1
  have h := c.life_upload call.chronicled (Chronicled.calm_quiet call.progress)
    Chronicled.onward_through weaken (fun _ _ _ => Chronicled.carries_note fun _ _ _ => rfl)
    (Site.chronicled s) hd
  have tells : ∀ {t}, Site.Life (fun m => ∃ request, Negotiator.Due (c.triesRapid call) request
      (Chronicled.Through Quiet) (Site.plain (Site.chronicled s)) m) (Chronicled.Through Quiet)
      (Chronicled.Through fun x => x.change = 0) (Site.chronicled s) t →
      Site.Tells (c.triesRapid call) (Site.chronicled s) t := by
    intro t ht
    cases ht with
    | unmade hk =>
      obtain ⟨story, hr, hs⟩ := hk.service
      exact ⟨story, hr, (Tidy.nil _).append hs fun _ _ _ => rfl, files_still hs⟩
    | made due told stands gone _ after =>
      obtain ⟨request, due⟩ := due
      obtain ⟨story, hr, hq, hdue⟩ := Chronicled.due_story due
      obtain ⟨story', hr', hq'⟩ := stands
      obtain ⟨story'', hr'', hs⟩ := after
      obtain ⟨htidy, hone⟩ := Tidy.made hq hdue told hq'
      obtain ⟨htidy, hnone⟩ := htidy.removed hone gone hs
      exact ⟨_, (((hr.told _).trans hr').told _).trans hr'', htidy, hnone⟩
  refine h.mono (fun _ _ => tells) fun e t ht => ht.imp tells fun hundone => ?_
  obtain ⟨m, line, ⟨request, due⟩, hl, hplain⟩ := hundone.removed
  obtain ⟨story, hr, hq, hdue⟩ := Chronicled.due_story due
  exact ⟨story, line, hplain ▸ hr.told line, hq, hdue, hl, hundone.fault⟩

/-- **No temp file survives an upload.**  Whichever way it ends, the disk has the same files as
before, and so it has once the upload has delivered, before it is completed.  On the way at most one
temp file stands, as its story tells and the disk agrees: it is made once the full hash is due, and
is gone when the completion is asked for.  One that is made but cannot be opened is not told of; it
ends the delivery, and its removal the upload. -/
theorem upload_tidy (call : UploadCall ρ α) {s : Logged (Site α)} (hd : s.state.disk.Numbered) :
    Ends (c.upload call) s (fun _ t => s.state.disk.Keeps t.state.disk)
      (fun _ t => s.state.disk.Keeps t.state.disk) ∧
    (∀ request (stream : Opened ρ) (site : Logged (Site α)), site.state.disk.Numbered →
      Ends (Site.withScene c.config.tempFolder stream
          (c.deliver (c.triesRapid call) request stream call.progress)) site
        (fun _ t => site.state.disk.Keeps t.state.disk)
        (fun _ t => site.state.disk.Keeps t.state.disk)) ∧
    (∀ request (stream : Opened ρ) (scene : Logged (Scene (Opened ρ) (Chronicled α))),
      Ends (c.deliver (c.triesRapid call) request stream call.chronicled.progress) scene
        (fun _ t => Scene.Agrees (c.triesRapid call) scene t)
        (fun e t => Scene.Agrees (c.triesRapid call) scene t ∨
          Scene.Untold (c.triesRapid call) scene e t)) ∧
    Ends (c.upload call.chronicled) (Site.chronicled s)
      (fun _ t => Site.Tells (c.triesRapid call) (Site.chronicled s) t)
      (fun e t => Site.Tells (c.triesRapid call) (Site.chronicled s) t ∨
        Site.Retracts (c.triesRapid call) (Site.chronicled s) e t) :=
  ⟨c.upload_keeps call hd,
    fun request stream _ hsite => c.delivered_keeps _ request stream call.progress hsite,
    fun request stream scene => c.deliver_agrees _ request stream call.progress scene,
    c.upload_tells call hd⟩

open Rehearsal in
/-- The part that is sent is turned down: the temp file was made, and it is gone. -/
theorem upload_tidy_pair :
    let call := { pairCall with rapid := some false }
    let server : Logged (Site Script) :=
      ⟨⟨{ (listing [1]).state.service with failing := [address 1] }, roomy⟩, #[]⟩
    roomy.Numbered ∧ ∃ e t, pairs.upload call server = .error e t ∧
      (t.log.toList.map Log.Line.change).filter (· ≠ 0) = [1, -1] ∧
      roomy.Keeps t.state.disk ∧
      Ends (pairs.upload call.chronicled) (Site.chronicled server)
        (fun _ t => Site.Tells false (Site.chronicled server) t)
        (fun e t => Site.Tells false (Site.chronicled server) t ∨
          Site.Retracts false (Site.chronicled server) e t) := by
  intro call server
  have hd : roomy.Numbered := fun _ h => nomatch h
  obtain ⟨hdisk, -, -, htells⟩ := pairs.upload_tidy call (s := server) hd
  have hlines : (match pairs.upload call server with
      | .ok _ _ => []
      | .error _ t => (t.log.toList.map Log.Line.change).filter (· ≠ 0)) = [1, -1] := by
    decide +kernel
  cases hrun : pairs.upload call server with
  | ok report t =>
    rw [hrun] at hlines
    cases hlines
  | error e t =>
    rw [hrun] at hlines
    exact ⟨hd, e, t, rfl, hlines, ends_of_error hdisk hrun, htells⟩

open Rehearsal in
/-- The temp file that cannot be opened is gone, too. -/
example :
    (match pairs.upload { pairCall with rapid := some false }
        ⟨⟨(listing [1]).state.service, { roomy with sealed := fun _ => some .full }⟩, #[]⟩ with
      | .ok _ _ => ([], 0, 0)
      | .error _ t => ((t.log.toList.map Log.Line.change).filter (· ≠ 0),
        t.state.disk.temps.length, t.state.disk.next)) = ([-1], 0, 1) := by
  decide +kernel

end Coordinator

end RapidUpload
