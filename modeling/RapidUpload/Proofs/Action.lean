import RapidUpload.Act

/-!
# What actions end in

An action ends in a result or a fault, each with a state.  A predicate says which ones, and one
rule for each way of putting actions together carries it from the parts to the whole.

* `Step.Ends a s Q E`: from `s` the action `a` ends in a result with `Q` or in a fault with `E`.
-/

namespace RapidUpload.Step

variable {σ τ υ β γ : Type}

/-- From `s` the action ends in a result and a state with `Q`, or in a fault and a state with
`E`. -/
def Ends (a : Step σ β) (s : σ) (Q : β → σ → Prop) (E : Fault → σ → Prop) : Prop :=
  match a s with
  | .ok b t => Q b t
  | .error e t => E e t

section Rules

variable {s : σ} {Q : β → σ → Prop} {E : Fault → σ → Prop}

theorem Ends.mono {a : Step σ β} {Q' : β → σ → Prop} {E' : Fault → σ → Prop}
    (h : Ends a s Q E) (hQ : ∀ b t, Q b t → Q' b t) (hE : ∀ e t, E e t → E' e t) :
    Ends a s Q' E' := by
  unfold Ends at h ⊢
  split at h
  · exact hQ _ _ h
  · exact hE _ _ h

theorem Ends.and {a : Step σ β} {Q' : β → σ → Prop} {E' : Fault → σ → Prop} (h : Ends a s Q E)
    (h' : Ends a s Q' E') : Ends a s (fun b t => Q b t ∧ Q' b t) (fun e t => E e t ∧ E' e t) := by
  unfold Ends at *
  split <;> simp_all

/-- A run ends as it does. -/
theorem ends_run (a : Step σ β) (s : σ) :
    Ends a s (fun b t => a s = .ok b t) (fun e t => a s = .error e t) := by
  unfold Ends
  split
  · assumption
  · assumption

theorem ends_bind {a : Step σ γ} {f : γ → Step σ β} :
    Ends (a >>= f) s Q E ↔ Ends a s (fun c t => Ends (f c) t Q E) E := by
  simp only [Ends, Bind.bind, EStateM.bind]
  cases a s <;> rfl

@[simp] theorem ends_pure {b : β} : Ends (pure b) s Q E ↔ Q b s := Iff.rfl

@[simp] theorem ends_throw {e : Fault} : Ends (throw e) s Q E ↔ E e s := Iff.rfl

theorem ends_map {a : Step σ γ} {f : γ → β} :
    Ends (f <$> a) s Q E ↔ Ends a s (fun c t => Q (f c) t) E := by
  simp only [Ends, Functor.map, EStateM.map]
  cases a s <;> rfl

theorem ends_within {f : Focus σ τ} {a : Step τ β} :
    Ends (Step.within f a) s Q E ↔
      Ends a (f.get s) (fun b t => Q b (f.set t s)) (fun e t => E e (f.set t s)) := by
  simp only [Ends, Step.within]
  cases a (f.get s) <;> rfl

theorem ends_ok {a : Step σ β} {b : β} {t : σ} (ha : a s = .ok b t) (h : Q b t) : Ends a s Q E := by
  rwa [Ends, ha]

theorem ends_error {a : Step σ β} {e : Fault} {t : σ} (ha : a s = .error e t) (h : E e t) :
    Ends a s Q E := by
  rwa [Ends, ha]

theorem ends_of_ok {a : Step σ β} {b : β} {t : σ} (h : Ends a s Q E) (ha : a s = .ok b t) :
    Q b t := by
  rwa [Ends, ha] at h

theorem ends_of_error {a : Step σ β} {e : Fault} {t : σ} (h : Ends a s Q E)
    (ha : a s = .error e t) : E e t := by
  rwa [Ends, ha] at h

/-- An action that cannot fail ends in a result. -/
theorem ok_of_ends {a : Step σ β} (h : Ends a s Q fun _ _ => False) :
    ∃ b t, a s = .ok b t ∧ Q b t := by
  cases ha : a s with
  | ok b t => exact ⟨b, t, rfl, ends_of_ok h ha⟩
  | error e t => exact (ends_of_error h ha).elim

theorem eq_error_of_ends {a : Step σ β} {e : Fault} {t : σ}
    (h : Ends a s (fun _ _ => False) fun e' t' => e' = e ∧ t' = t) : a s = .error e t := by
  cases ha : a s with
  | ok b s' => exact (ends_of_ok h ha).elim
  | error e' s' =>
    obtain ⟨rfl, rfl⟩ := ends_of_error h ha
    rfl

end Rules

section Telling

variable {s : Logged σ} {Q : β → Logged σ → Prop} {E : Fault → Logged σ → Prop}

@[simp] theorem ends_tell {level : Log.Level} {channel : Log.Channel} {pieces : List Log.Piece}
    {Q : Unit → Logged σ → Prop} :
    Ends (Act.tell level channel pieces) s Q E ↔
      Q () { s with log := s.log.push ⟨level, channel, pieces⟩ } := Iff.rfl

@[simp] theorem ends_look {Q : σ → Logged σ → Prop} : Ends Act.look s Q E ↔ Q s.state s := Iff.rfl

@[simp] theorem ends_change {f : σ → σ} {Q : Unit → Logged σ → Prop} :
    Ends (Act.change f) s Q E ↔ Q () { s with state := f s.state } := Iff.rfl

@[simp] theorem ends_fail {e : Fault} : Ends (Act.fail e) s Q E ↔ E e s := Iff.rfl

theorem ends_ofExcept {x : Except Fault β} :
    Ends (Act.ofExcept x) s Q E ↔ (∀ b, x = .ok b → Q b s) ∧ (∀ e, x = .error e → E e s) := by
  cases x with
  | ok b => simp [Act.ofExcept]
  | error e => simp [Act.ofExcept]

/-- A line that is told only where something holds makes no difference to what follows, where its
text can be made. -/
theorem ends_tell_if {P : Prop} [Decidable P] {x : Except Fault String} {level : Log.Level}
    {channel : Log.Channel} {pieces : String → List Log.Piece} {f : Unit → Act σ β}
    (h : ∀ log, Ends (f ()) ⟨s.state, log⟩ Q E) (he : P → ∀ e, x = .error e → E e s) :
    Ends (if P then Act.ofExcept x >>= fun text => Act.tell level channel (pieces text) >>= f
      else f ()) s Q E := by
  split
  · rename_i hp
    refine ends_bind.mpr (ends_ofExcept.mpr ⟨fun text _ => ?_, he hp⟩)
    exact ends_bind.mpr (h _)
  · exact h _

theorem ends_outcome {a : Act σ β} {Q : Except Fault β → Logged σ → Prop} :
    Ends a.outcome s Q E ↔
      Ends a s (fun b t => Q (.ok b) t) (fun e t => Q (.error e) t) := by
  simp only [Ends, Act.outcome]
  cases a s <;> rfl

theorem ends_part {f : Focus σ τ} {a : Act τ β} :
    Ends (Act.within f a) s Q E ↔
      Ends a ⟨f.get s.state, s.log⟩ (fun b t => Q b ⟨f.set t.state s.state, t.log⟩)
        (fun e t => E e ⟨f.set t.state s.state, t.log⟩) := by
  simp only [Ends, Act.within]
  cases a ⟨f.get s.state, s.log⟩ <;> rfl

theorem ends_quiet {a : Step σ β} :
    Ends (Act.quiet a) s Q E ↔
      Ends a s.state (fun b t => Q b ⟨t, s.log⟩) (fun e t => E e ⟨t, s.log⟩) := by
  simp only [Ends, Act.quiet]
  cases a s.state <;> rfl

end Telling

-- the rules take a goal apart; running the action to see its shape is never wanted
attribute [irreducible] Ends

end RapidUpload.Step
