import RapidUpload.Http.Config
import RapidUpload.Loggers

/-!
# Levels over time

The levels of the package's loggers while an application sets them up, gives the root handlers and
takes them away, and builds clients.  Building an HTTP client is the one thing besides setting up
that touches a level, and it touches one: as long as the root has no handler, the client's own
logger takes the level of the client's settings.  All other levels stay as they were set up, and
every logger of the package keeps passing its lines on.

* `LoggingStep`, `Logging.run`: what an application does, one step after another.
* `LoggingStep.forced`: the levels that new clients give their logger on the way.
* `Logging.get_since_setUp`: the settings of every logger of the package since it was last set up.
-/

namespace RapidUpload

/-! ### Settings are written by name -/

namespace Loggers

@[simp] theorem get_set (l : Loggers) (a b : String) (s : LoggerSettings) :
    (l.set a s).get b = if key b = key a then s else l.get b := by
  by_cases h : key b = key a
  · simp [get, set, h]
  · have hk : (key b == key a) = false := beq_false_of_ne h
    simp [get, set, List.lookup_cons, hk, h]

/-- Writing the same settings under many names leaves them under those names alone. -/
theorem get_foldl_set (s : LoggerSettings) (b : String) (ns : List String) (l : Loggers) :
    (ns.foldl (fun l n => l.set n s) l).get b
      = if key b ∈ ns.map key then s else l.get b := by
  induction ns generalizing l with
  | nil => simp
  | cons n ns ih =>
    rw [List.foldl_cons, ih]
    by_cases hn : key b = key n <;> simp [hn]

/-- Setting up reaches every logger of the package. -/
theorem get_setUp {name : String} (h : name ∈ names) (l : Loggers) (level : Int) :
    (l.setUp level).get name = ⟨level, true⟩ := by
  rw [setUp, get_foldl_set, if_pos (List.mem_map_of_mem h)]

/-- The one name of the package that is kept as the HTTP client's. -/
theorem key_eq_api {name : String} (h : name ∈ names) :
    key name = key Log.Channel.api.name ↔ name = Log.Channel.api.name := by
  revert name
  decide

/-- A new HTTP client writes the settings of its own logger and no other: the lines go on, and the
level is the client's unless the application handles all lines. -/
theorem get_newClient {name : String} (h : name ∈ names) (l : Loggers) (level : Int)
    (handled : Bool) :
    (l.newClient level handled).get name
      = if name = Log.Channel.api.name then
          ⟨if handled then (l.get name).level else level, true⟩
        else l.get name := by
  have hk := key_eq_api h
  by_cases hn : name = Log.Channel.api.name
  · subst hn
    cases handled <;> simp [newClient, takeUp]
  · have hk' : key name ≠ key Log.Channel.api.name := fun e => hn (hk.mp e)
    cases handled <;> simp [newClient, takeUp, hk', hn]

end Loggers

/-! ### What an application does -/

/-- The loggers of an application, and the handlers it gave the root. -/
structure Logging (η : Type) where
  loggers : Loggers
  handlers : List η

/-- What an application does that can matter to its loggers. -/
inductive LoggingStep (η : Type) where
  | setUp (level : Int)
  | attach (handler : η)
  | detach (handler : η)
  /-- Builds an HTTP client with these settings, or the standard ones. -/
  | httpClient (config : Option HttpConfig)
  /-- Builds a drive client, and an HTTP client for it unless one is at hand. -/
  | driveClient (prebuilt : Bool) (config : Option HttpConfig)

variable {η : Type}

/-- The settings of the HTTP client that a step builds. -/
def LoggingStep.built : LoggingStep η → Option HttpConfig
  | .setUp _ | .attach _ | .detach _ | .driveClient true _ => none
  | .httpClient config | .driveClient false config => some (config.getD .standard)

variable [DecidableEq η]

/-- The root's handlers after a step. A handler is attached once at most. -/
def LoggingStep.handled (handlers : List η) : LoggingStep η → List η
  | .attach h => if h ∈ handlers then handlers else handlers ++ [h]
  | .detach h => handlers.erase h
  | .setUp _ | .httpClient _ | .driveClient _ _ => handlers

/-- The levels that new clients give their logger on the way, the first one first: those of the
clients that are built while the root has no handler. -/
def LoggingStep.forced (handlers : List η) : List (LoggingStep η) → List Int
  | [] => []
  | step :: steps =>
    (if handlers.isEmpty then step.built.toList.map HttpConfig.logLevel else [])
      ++ forced (step.handled handlers) steps

namespace Logging

/-- One step. -/
def take (s : Logging η) (step : LoggingStep η) : Logging η where
  loggers :=
    match step with
    | .setUp level => s.loggers.setUp level
    | step => step.built.elim s.loggers fun config =>
        s.loggers.newClient config.logLevel (!s.handlers.isEmpty)
  handlers := step.handled s.handlers

/-- One step after another. -/
def run (s : Logging η) (steps : List (LoggingStep η)) : Logging η := steps.foldl take s

@[simp] theorem run_nil (s : Logging η) : s.run [] = s := rfl

@[simp] theorem run_cons (s : Logging η) (step : LoggingStep η) (steps : List (LoggingStep η)) :
    s.run (step :: steps) = (s.take step).run steps := rfl

@[simp] theorem run_append (s : Logging η) (before after : List (LoggingStep η)) :
    s.run (before ++ after) = (s.run before).run after := by
  simp [run]

/-- The settings that the loggers of the package have, the HTTP client's own with a level of its
own. -/
def Stands (s : Logging η) (level api : Int) : Prop :=
  ∀ name ∈ Loggers.names,
    s.loggers.get name = ⟨if name = Log.Channel.api.name then api else level, true⟩

/-- Setting up gives every logger of the package the one level, whatever came before. -/
theorem stands_setUp (s : Logging η) (level : Int) : (s.take (.setUp level)).Stands level level :=
  fun name h => by simp [take, Loggers.get_setUp h]

/-- A step that sets nothing up leaves all settings but one: the client's own level follows the
clients that are built while nobody handles all lines. -/
theorem Stands.take {s : Logging η} {level api : Int} (h : s.Stands level api)
    {step : LoggingStep η} (hstep : ∀ l, step ≠ .setUp l) :
    (s.take step).Stands level
      ((LoggingStep.forced s.handlers [step]).getLast?.getD api) := by
  intro name hn
  have hname := h name hn
  cases hb : step.built with
  | none =>
    have hl : (s.take step).loggers = s.loggers := by
      cases step <;> simp_all [Logging.take, LoggingStep.built]
    simpa [hl, LoggingStep.forced, hb] using hname
  | some config =>
    have hl : (s.take step).loggers
        = s.loggers.newClient config.logLevel (!s.handlers.isEmpty) := by
      cases step <;> simp_all [Logging.take, LoggingStep.built]
    rw [hl, Loggers.get_newClient hn, hname]
    by_cases hapi : name = Log.Channel.api.name
    · cases hh : s.handlers.isEmpty <;> simp [hapi, LoggingStep.forced, hb, hh]
    · simp [hapi]

omit [DecidableEq η] in
theorem getLast?_append_getD (xs ys : List Int) (z : Int) :
    (xs ++ ys).getLast?.getD z = ys.getLast?.getD (xs.getLast?.getD z) := by
  cases h : ys.getLast? <;> simp [List.getLast?_append, h]

/-- Nothing set up, the loggers stand as the clients built on the way have left them. -/
theorem Stands.run {s : Logging η} {level api : Int} (h : s.Stands level api)
    {steps : List (LoggingStep η)} (hsteps : ∀ l, .setUp l ∉ steps) :
    (s.run steps).Stands level
      ((LoggingStep.forced s.handlers steps).getLast?.getD api) := by
  induction steps generalizing s api with
  | nil => simpa [LoggingStep.forced] using h
  | cons step steps ih =>
    have hstep : ∀ l, step ≠ .setUp l := fun l e => hsteps l (by simp [e])
    have hrest : ∀ l, LoggingStep.setUp l ∉ steps := fun l hm =>
      hsteps l (List.mem_cons_of_mem _ hm)
    have hs := ih (h.take hstep) hrest
    have hforced : LoggingStep.forced s.handlers (step :: steps)
        = LoggingStep.forced s.handlers [step]
          ++ LoggingStep.forced (s.take step).handlers steps := by
      simp [LoggingStep.forced, Logging.take]
    rwa [hforced, getLast?_append_getD]

/-- **The settings of every logger of the package since it was last set up.** Whatever handlers
come and go and whatever clients are built meanwhile, it passes its lines on, and it keeps the
level it was given, except that the HTTP client's own has the level of the last client that was
built while the root had no handler, if any was. -/
theorem get_since_setUp (s : Logging η) (before after : List (LoggingStep η)) (level : Int)
    (hafter : ∀ l, .setUp l ∉ after) {name : String} (hn : name ∈ Loggers.names) :
    (s.run (before ++ .setUp level :: after)).loggers.get name
      = ⟨if name = Log.Channel.api.name then
          (LoggingStep.forced (s.run before).handlers after).getLast?.getD level
        else level, true⟩ := by
  rw [run_append, run_cons]
  exact (stands_setUp (s.run before) level).run hafter name hn

/-- Set up for all lines, then an HTTP client while the root has no handler, one with a handler in
place, and a drive client after the handler is gone again. -/
theorem get_since_setUp_standard :
    (∀ l, .setUp l ∉ ([.httpClient none, .attach (), .httpClient none, .detach (),
      .driveClient true none] : List (LoggingStep Unit)))
    ∧ ∀ name ∈ Loggers.names,
      ((⟨.fresh, []⟩ : Logging Unit).run ([.httpClient none] ++ .setUp 10 ::
        [.httpClient none, .attach (), .httpClient none, .detach (), .driveClient true none])
        ).loggers.get name = ⟨if name = Log.Channel.api.name then 20 else 10, true⟩ :=
  have h : ∀ l, .setUp l ∉ ([.httpClient none, .attach (), .httpClient none, .detach (),
      .driveClient true none] : List (LoggingStep Unit)) := fun l => by simp
  ⟨h, fun _ hn => get_since_setUp ⟨.fresh, []⟩ [.httpClient none] _ 10 h hn⟩

/-- The level that was set up is not kept by every logger: a new client replaces its own. -/
theorem level_not_kept :
    ¬ ∀ (s : Logging Unit) (before after : List (LoggingStep Unit)) (level : Int),
      (∀ l, .setUp l ∉ after) → ∀ name ∈ Loggers.names,
        (s.run (before ++ .setUp level :: after)).loggers.get name = ⟨level, true⟩ := fun h =>
  have hl := congrArg LoggerSettings.level
    (h ⟨.fresh, []⟩ [] [.httpClient none] 10 (by simp) Log.Channel.api.name (by decide))
  absurd hl (by decide)

end Logging

end RapidUpload
