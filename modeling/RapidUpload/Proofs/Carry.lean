import RapidUpload.Reader.Basic
import RapidUpload.Proofs.Action

/-!
# What actions carry along

Some relations hold between the state before an action and the one after it, whichever way it ends,
because they hold for every step and add up.

* `Step.Onward`: a relation that holds from each state to itself and adds up.
* `Step.Carries R a`: however `a` ends, `R` holds from the state before to the one after.
* `Reader.carries_readUpTo`: reading up to a count carries what each read does.
-/

namespace RapidUpload

namespace Step

variable {σ τ β γ : Type}

/-- A relation that holds from each state to itself and adds up. -/
structure Onward (R : σ → σ → Prop) : Prop where
  refl : ∀ s, R s s
  trans : ∀ {s t u}, R s t → R t u → R s u

/-- However the action ends, the relation holds from the state before to the one after. -/
def Carries (R : σ → σ → Prop) (a : Step σ β) : Prop :=
  ∀ s, Ends a s (fun _ t => R s t) (fun _ t => R s t)

section Rules

variable {R : σ → σ → Prop}

theorem Onward.pure (h : Onward R) (b : β) : Carries R (pure b : Step σ β) :=
  fun s => ends_pure.mpr (h.refl s)

theorem Onward.throw (h : Onward R) (e : Fault) : Carries R (throw e : Step σ β) :=
  fun s => ends_throw.mpr (h.refl s)

theorem Onward.bind (h : Onward R) {a : Step σ γ} {f : γ → Step σ β} (ha : Carries R a)
    (hf : ∀ c, Carries R (f c)) : Carries R (a >>= f) := fun s =>
  ends_bind.mpr ((ha s).mono
    (fun c t hst => (hf c t).mono (fun _ _ => h.trans hst) fun _ _ => h.trans hst) fun _ _ h => h)

theorem Carries.map {a : Step σ γ} (ha : Carries R a) (f : γ → β) : Carries R (f <$> a) :=
  fun s => ends_map.mpr (ha s)

end Rules

section Telling

variable {R : Logged σ → Logged σ → Prop}

theorem Carries.outcome {a : Act σ β} (ha : Carries R a) : Carries R a.outcome :=
  fun s => ends_outcome.mpr (ha s)

theorem Onward.look (h : Onward R) : Carries R (Act.look : Act σ σ) :=
  fun s => ends_look.mpr (h.refl s)

theorem Onward.fail (h : Onward R) (e : Fault) : Carries R (Act.fail e : Act σ β) :=
  fun s => ends_fail.mpr (h.refl s)

theorem Onward.ofExcept (h : Onward R) (x : Except Fault β) :
    Carries R (Act.ofExcept x : Act σ β) := fun s =>
  ends_ofExcept.mpr ⟨fun _ _ => h.refl s, fun _ _ => h.refl s⟩

/-- A line that is told only where something holds, if it can be made, makes no difference to what
is carried. -/
theorem Onward.tell_if (h : Onward R) {P : Prop} [Decidable P] {x : Except Fault γ}
    {line : γ → Act σ Unit} {f : Unit → Act σ β} (hline : ∀ c, Carries R (line c))
    (hf : ∀ u, Carries R (f u)) :
    Carries R (if P then Act.ofExcept x >>= fun c => line c >>= f else f ()) := by
  split
  · exact h.bind (h.ofExcept x) fun c => h.bind (hline c) hf
  · exact hf ()

theorem carries_tell {level : Log.Level} {channel : Log.Channel} {pieces : List Log.Piece}
    (h : ∀ s, R s { s with log := s.log.push ⟨level, channel, pieces⟩ }) :
    Carries R (Act.tell level channel pieces) := fun s => ends_tell.mpr (h s)

theorem carries_change {f : σ → σ} (h : ∀ s, R s { s with state := f s.state }) :
    Carries R (Act.change f) := fun s => ends_change.mpr (h s)

/-- A silent action carries what it carries in the state alone. -/
theorem carries_quiet {P : σ → σ → Prop} {a : Step σ β} (ha : Carries P a)
    (h : ∀ s t log, P s t → R ⟨s, log⟩ ⟨t, log⟩) : Carries R (Act.quiet a) := fun s =>
  ends_quiet.mpr ((ha s.state).mono (fun _ t => h s.state t s.log) fun _ t => h s.state t s.log)

/-- An action on a part carries what it carries there. -/
theorem carries_part {P : Logged τ → Logged τ → Prop} {f : Focus σ τ} {a : Act τ β}
    (ha : Carries P a)
    (h : ∀ s t, P ⟨f.get s.state, s.log⟩ t → R s ⟨f.set t.state s.state, t.log⟩) :
    Carries R (Act.within f a) := fun s =>
  ends_part.mpr ((ha ⟨f.get s.state, s.log⟩).mono (fun _ t => h s t) fun _ t => h s t)

end Telling

end Step

open Step

/-- Reading up to a count carries what each read does. -/
theorem Reader.carries_readUpTo {ρ : Type} [Reader ρ] {R : ρ → ρ → Prop} (h : Onward R)
    (hread : ∀ ask, Carries R (Reader.read ask : Step ρ (Option ByteArray))) (n : Nat) :
    Carries R (Reader.readUpTo n : Step ρ ByteArray) := by
  -- on the count still wanted
  induction n using Nat.strongRecOn with
  | ind n ih =>
    unfold Reader.readUpTo
    split
    · exact h.pure _
    · refine h.bind (hread _) fun out => ?_
      cases out with
      | none => exact h.pure _
      | some bytes =>
        dsimp only
        split
        · exact h.pure _
        · exact h.bind (ih _ (by omega)) fun _ => h.pure _

end RapidUpload
