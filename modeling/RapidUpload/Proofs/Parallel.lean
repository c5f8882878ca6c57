import RapidUpload.Proofs.Action

/-!
# Runs in step

Two actions, on states of two kinds, go in step when from related states they end alike: in related
results or in one fault, and in related states again.

* `Step.Agree Q E x y`: two runs ended in results and states with `Q`, or in one fault and states
  with `E`.
* `Step.Alike B R x y`: two runs ended alike.
* `Step.InStep B R a b`: two actions go in step.
* `Step.Beside told R`: states are related, and where `told` holds the same lines were told.
* `Step.Follows R P f g`: parts of related states are related.
-/

namespace RapidUpload.Step

variable {σ τ σ' τ' β β' γ γ' : Type}

/-- Two runs ended in results and states with `Q`, or in one fault and states with `E`. -/
inductive Agree (Q : β → β' → σ → τ → Prop) (E : σ → τ → Prop) :
    EStateM.Result Fault σ β → EStateM.Result Fault τ β' → Prop where
  | ok {b : β} {b' : β'} {s : σ} {t : τ} (h : Q b b' s t) : Agree Q E (.ok b s) (.ok b' t)
  | error (e : Fault) {s : σ} {t : τ} (h : E s t) : Agree Q E (.error e s) (.error e t)

/-- Two runs ended in related results or in one fault, and in related states. -/
abbrev Alike (B : β → β' → Prop) (R : σ → τ → Prop) :
    EStateM.Result Fault σ β → EStateM.Result Fault τ β' → Prop :=
  Agree (fun b b' s t => B b b' ∧ R s t) R

/-- From related states two actions end alike. -/
def InStep (B : β → β' → Prop) (R : σ → τ → Prop) (a : Step σ β) (b : Step τ β') : Prop :=
  ∀ s t, R s t → Alike B R (a s) (b t)

section Rules

variable {B : β → β' → Prop} {C : γ → γ' → Prop} {R E : σ → τ → Prop}
  {Q : β → β' → σ → τ → Prop}

theorem Alike.ok {b : β} {b' : β'} {s : σ} {t : τ} (hb : B b b') (h : R s t) :
    Alike B R (.ok b s) (.ok b' t) := Agree.ok ⟨hb, h⟩

theorem Alike.error (e : Fault) {s : σ} {t : τ} (h : R s t) :
    Alike B R (.error e s : EStateM.Result Fault σ β)
      (.error e t : EStateM.Result Fault τ β') := Agree.error e h

theorem Agree.mono {x : EStateM.Result Fault σ β} {y : EStateM.Result Fault τ β'}
    {Q' : β → β' → σ → τ → Prop} {E' : σ → τ → Prop} (h : Agree Q E x y)
    (hQ : ∀ b b' s t, Q b b' s t → Q' b b' s t) (hE : ∀ s t, E s t → E' s t) : Agree Q' E' x y := by
  cases h with
  | ok h => exact .ok (hQ _ _ _ _ h)
  | error e h => exact .error e (hE _ _ h)

theorem Alike.mono {x : EStateM.Result Fault σ β} {y : EStateM.Result Fault τ β'}
    (h : Alike B R x y) (hE : ∀ s t, R s t → E s t) : Alike B E x y :=
  Agree.mono h (fun _ _ _ _ ⟨hb, h⟩ => ⟨hb, hE _ _ h⟩) hE

theorem Agree.bind {P : γ → γ' → σ → τ → Prop} {D : σ → τ → Prop} {a : Step σ γ} {b : Step τ γ'}
    {f : γ → Step σ β} {g : γ' → Step τ β'} {s : σ} {t : τ} (h : Agree P D (a s) (b t))
    (hf : ∀ c d s t, P c d s t → Agree Q E (f c s) (g d t)) (hE : ∀ s t, D s t → E s t) :
    Agree Q E ((a >>= f) s) ((b >>= g) t) := by
  simp only [Bind.bind, EStateM.bind]
  generalize a s = x at h
  generalize b t = y at h
  cases h with
  | ok h => exact hf _ _ _ _ h
  | error e h => exact .error e (hE _ _ h)

/-- What comes after two runs that ended alike may come to something else. -/
theorem Alike.bind {a : Step σ γ} {b : Step τ γ'} {f : γ → Step σ β} {g : γ' → Step τ β'} {s : σ}
    {t : τ} (h : Alike C R (a s) (b t))
    (hf : ∀ c d, C c d → ∀ s t, R s t → Agree Q E (f c s) (g d t))
    (hE : ∀ s t, R s t → E s t) : Agree Q E ((a >>= f) s) ((b >>= g) t) :=
  Agree.bind h (fun c d s t ⟨hc, h⟩ => hf c d hc s t h) hE

/-- What holds of one of two runs holds of both as they stand. -/
theorem Agree.and_left {a : Step σ β} {s : σ} {y : EStateM.Result Fault τ β'}
    {P : β → σ → Prop} (h : Agree Q E (a s) y) (ha : Ends a s P fun _ _ => True) :
    Agree (fun b b' s t => Q b b' s t ∧ P b s) E (a s) y := by
  cases hs : a s with
  | error e s' =>
    rw [hs] at h
    cases h with
    | error e h => exact .error e h
  | ok b s' =>
    have hb := ends_of_ok ha hs
    rw [hs] at h
    cases h with
    | ok h => exact .ok ⟨h, hb⟩

/-- What the one run ended in shows in the other. -/
theorem Agree.ends {a : Step σ β} {b : Step τ β'} {s : σ} {t : τ} {P : β → σ → Prop}
    {D : Fault → σ → Prop} (h : Agree Q E (a s) (b t)) (ha : Ends a s P D) :
    Ends b t (fun d t' => ∃ c s', Q c d s' t' ∧ P c s') fun e t' => ∃ s', E s' t' ∧ D e s' := by
  cases hb : b t with
  | ok d t' =>
    rw [hb] at h
    generalize hs : a s = x at h
    cases h with
    | ok h => exact ends_ok hb ⟨_, _, h, ends_of_ok ha hs⟩
  | error e t' =>
    rw [hb] at h
    generalize hs : a s = x at h
    cases h with
    | error e h => exact ends_error hb ⟨_, h, ends_of_error ha hs⟩

/-- Two runs that cannot fail ended alike where all their results are related. -/
theorem Alike.of_ends {a : Step σ β} {b : Step τ β'} {s : σ} {t : τ} {P : β → σ → Prop}
    {P' : β' → τ → Prop} (ha : Ends a s P fun _ _ => False) (hb : Ends b t P' fun _ _ => False)
    (h : ∀ c d s t, P c s → P' d t → B c d ∧ R s t) : Alike B R (a s) (b t) := by
  obtain ⟨c, s', hs, hc⟩ := ok_of_ends ha
  obtain ⟨d, t', ht, hd⟩ := ok_of_ends hb
  rw [hs, ht]
  exact Agree.ok (h _ _ _ _ hc hd)

/-- Runs from equal states that end alike under equality end in the same. -/
theorem Alike.eq {x y : EStateM.Result Fault σ β} (h : Alike Eq Eq x y) : x = y := by
  cases h with
  | ok h => rw [h.1, h.2]
  | error e h => rw [h]

theorem alike_refl (x : EStateM.Result Fault σ β) : Alike Eq Eq x x := by
  cases x with
  | ok b s => exact .ok rfl rfl
  | error e s => exact .error e rfl

theorem inStep_refl (a : Step σ β) : InStep Eq Eq a a := by
  rintro s _ rfl
  exact alike_refl (a s)

theorem inStep_pure {b : β} {b' : β'} (hb : B b b') : InStep B R (pure b) (pure b') :=
  fun _ _ h => .ok hb h

theorem inStep_throw (e : Fault) : InStep B R (throw e) (throw e) := fun _ _ h => .error e h

theorem InStep.bind {a : Step σ γ} {b : Step τ γ'} {f : γ → Step σ β} {g : γ' → Step τ β'}
    (ha : InStep C R a b) (hf : ∀ c d, C c d → InStep B R (f c) (g d)) :
    InStep B R (a >>= f) (b >>= g) :=
  fun s t h => (ha s t h).bind hf fun _ _ h => h

theorem InStep.ite {p : Prop} [Decidable p] {a a' : Step σ β} {b b' : Step τ β'}
    (h : InStep B R a b) (h' : InStep B R a' b') :
    InStep B R (if p then a else a') (if p then b else b') := by
  split
  · exact h
  · exact h'

theorem Agree.ite {p : Prop} [Decidable p] {a a' : Step σ β} {b b' : Step τ β'} {s : σ} {t : τ}
    (h : p → Agree Q E (a s) (b t)) (h' : ¬p → Agree Q E (a' s) (b' t)) :
    Agree Q E ((if p then a else a') s) ((if p then b else b') t) := by
  split
  · exact h ‹_›
  · exact h' ‹_›

end Rules

/-! ### Parts of states -/

/-- Two parts of related states are related, and once they are changed to related ones the states
are related again. -/
structure Follows (R : σ → τ → Prop) (P : σ' → τ' → Prop) (f : Focus σ σ') (g : Focus τ τ') :
    Prop where
  get : ∀ s t, R s t → P (f.get s) (g.get t)
  set : ∀ s t s' t', R s t → P s' t' → R (f.set s' s) (g.set t' t)

/-- Pairs are related part by part. -/
structure Both (P : σ → τ → Prop) (P' : σ' → τ' → Prop) (s : σ × σ') (t : τ × τ') : Prop where
  fst : P s.1 t.1
  snd : P' s.2 t.2

section Parts

variable {P : σ → τ → Prop} {P' : σ' → τ' → Prop}

theorem follows_first : Follows (Both P P') P .first .first :=
  ⟨fun _ _ h => h.fst, fun _ _ _ _ h h' => ⟨h', h.snd⟩⟩

theorem follows_second : Follows (Both P P') P' .second .second :=
  ⟨fun _ _ h => h.snd, fun _ _ _ _ h h' => ⟨h.fst, h'⟩⟩

theorem Follows.both {υ ω : Type} {R : υ → ω → Prop} {f : Focus υ σ} {g : Focus ω τ}
    {f' : Focus υ σ'} {g' : Focus ω τ'} (h : Follows R P f g) (h' : Follows R P' f' g') :
    Follows R (Both P P') (f.both f') (g.both g') where
  get s t hst := ⟨h.get s t hst, h'.get s t hst⟩
  set s t _ _ hst hpq := h'.set _ _ _ _ (h.set s t _ _ hst hpq.fst) hpq.snd

end Parts

/-! ### Telling -/

/-- The states are related, and where `told` holds the same lines were told. -/
inductive Beside (told : Prop) (R : σ → τ → Prop) : Logged σ → Logged τ → Prop where
  | mk {s : σ} {t : τ} {log log' : Array Log.Line} (h : R s t) (hlog : told → log = log') :
    Beside told R ⟨s, log⟩ ⟨t, log'⟩

/-- The states are related, and the same lines were told. -/
abbrev Told (R : σ → τ → Prop) : Logged σ → Logged τ → Prop := Beside True R

theorem Told.mk {R : σ → τ → Prop} {s : σ} {t : τ} (h : R s t) (log : Array Log.Line) :
    Told R ⟨s, log⟩ ⟨t, log⟩ := Beside.mk h fun _ => rfl

section Telling

variable {told : Prop} {B : β → β' → Prop} {R Q : σ → τ → Prop} {P : σ' → τ' → Prop}

theorem Beside.state {s : Logged σ} {t : Logged τ} (h : Beside told R s t) : R s.state t.state := by
  cases h with
  | mk h => exact h

theorem Beside.mono (hQ : ∀ s t, R s t → Q s t) (s : Logged σ) (t : Logged τ)
    (h : Beside told R s t) : Beside told Q s t := by
  cases h with
  | mk h hlog => exact .mk (hQ _ _ h) hlog

/-- The lines may differ where they are not compared. -/
theorem inStep_tell_apart {level : Log.Level} {channel : Log.Channel}
    {pieces pieces' : List Log.Piece} (h : told → pieces = pieces') :
    InStep Eq (Beside told R) (Act.tell level channel pieces)
      (Act.tell level channel pieces') := by
  rintro _ _ ⟨hst, hlog⟩
  exact .ok rfl (.mk hst fun ht => by rw [hlog ht, h ht])

theorem inStep_tell (level : Log.Level) (channel : Log.Channel) (pieces : List Log.Piece) :
    InStep Eq (Beside told R) (Act.tell level channel pieces) (Act.tell level channel pieces) :=
  inStep_tell_apart fun _ => rfl

theorem inStep_fail (e : Fault) : InStep B (Beside told R) (Act.fail e) (Act.fail e) :=
  inStep_throw e

/-- Two results are gone on with in step where they fail alike. -/
theorem inStep_ofExcept_apart {β' : Type} {x : Except Fault β} {y : Except Fault β'}
    (h : x.map (fun _ => ()) = y.map fun _ => ()) :
    InStep (fun b b' => x = .ok b ∧ y = .ok b') (Beside told R) (Act.ofExcept x)
      (Act.ofExcept y) := by
  match x, y with
  | .ok b, .ok b' => exact inStep_pure ⟨rfl, rfl⟩
  | .error e, .error e' =>
    cases h
    exact inStep_throw e

theorem inStep_ofExcept (x : Except Fault β) :
    InStep Eq (Beside told R) (Act.ofExcept x) (Act.ofExcept x) := by
  cases x with
  | ok b => exact inStep_pure rfl
  | error e => exact inStep_throw e

/-- A line that is told only where something holds makes no difference to what follows. -/
theorem agree_tell_if {p : Prop} [Decidable p] {x : Except Fault String} {level : Log.Level}
    {channel : Log.Channel} {pieces : String → List Log.Piece} {f : Unit → Act σ β}
    {g : Unit → Act τ β'} {s : Logged σ} {t : Logged τ}
    {F : β → β' → Logged σ → Logged τ → Prop} {E : Logged σ → Logged τ → Prop}
    (hst : Beside told R s t)
    (h : ∀ s t, Beside told R s t → Agree F E (f () s) (g () t))
    (hE : ∀ s t, Beside told R s t → E s t) :
    Agree F E
      ((if p then Act.ofExcept x >>= fun text => Act.tell level channel (pieces text) >>= f
        else f ()) s)
      ((if p then Act.ofExcept x >>= fun text => Act.tell level channel (pieces text) >>= g
        else g ()) t) := by
  split
  · refine (inStep_ofExcept x s t hst).bind ?_ hE
    rintro text _ rfl s t hst
    exact (inStep_tell _ _ _ s t hst).bind (fun _ _ _ => h) hE
  · exact h s t hst

theorem inStep_change {f : σ → σ} {g : τ → τ} (h : ∀ s t, R s t → R (f s) (g t)) :
    InStep Eq (Beside told R) (Act.change f) (Act.change g) := by
  rintro _ _ ⟨hst, hlog⟩
  exact .ok rfl (.mk (h _ _ hst) hlog)

theorem inStep_look : InStep R (Beside told R) (Act.look : Act σ σ) (Act.look : Act τ τ) := by
  rintro _ _ ⟨hst, hlog⟩
  exact .ok hst (.mk hst hlog)

/-- Outcomes of actions that go in step are the same. -/
theorem InStep.outcome {a : Act σ β} {b : Act τ β} (h : InStep Eq (Beside told R) a b) :
    InStep Eq (Beside told R) a.outcome b.outcome := by
  intro s t hst
  have hab := h s t hst
  unfold Act.outcome
  generalize a s = x at hab
  generalize b t = y at hab
  cases hab with
  | ok h => exact .ok (congrArg Except.ok h.1) h.2
  | error e h => exact .ok rfl h

theorem Alike.quiet {a : Step σ β} {b : Step τ β'} {s : σ} {t : τ} {log log' : Array Log.Line}
    (h : Alike B R (a s) (b t)) (hlog : told → log = log') :
    Alike B (Beside told R) (Act.quiet a ⟨s, log⟩) (Act.quiet b ⟨t, log'⟩) := by
  unfold Act.quiet
  dsimp only
  generalize a s = x at h
  generalize b t = y at h
  cases h with
  | ok h => exact .ok h.1 (.mk h.2 hlog)
  | error e h => exact .error e (.mk h hlog)

theorem InStep.quiet {a : Step σ β} {b : Step τ β'} (h : InStep B R a b) :
    InStep B (Beside told R) (Act.quiet a) (Act.quiet b) := by
  rintro _ _ ⟨hst, hlog⟩
  exact (h _ _ hst).quiet hlog

theorem Alike.part {f : Focus σ σ'} {g : Focus τ τ'} {a : Act σ' β} {b : Act τ' β'} {s : σ} {t : τ}
    {log log' : Array Log.Line}
    (h : Alike B (Beside told P) (a ⟨f.get s, log⟩) (b ⟨g.get t, log'⟩))
    (hR : ∀ s' t', P s' t' → R (f.set s' s) (g.set t' t)) :
    Alike B (Beside told R) (Act.within f a ⟨s, log⟩) (Act.within g b ⟨t, log'⟩) := by
  unfold Act.within
  dsimp only
  generalize a _ = x at h
  generalize b _ = y at h
  cases h with
  | ok h =>
    obtain ⟨hb, h, hlog⟩ := h
    exact .ok hb (.mk (hR _ _ h) hlog)
  | error e h =>
    obtain ⟨h, hlog⟩ := h
    exact .error e (.mk (hR _ _ h) hlog)

theorem InStep.part {f : Focus σ σ'} {g : Focus τ τ'} {a : Act σ' β} {b : Act τ' β'}
    (h : InStep B (Beside told P) a b) (hf : Follows R P f g) :
    InStep B (Beside told R) (Act.within f a) (Act.within g b) := by
  rintro _ _ ⟨hst, hlog⟩
  exact (h _ _ (.mk (hf.get _ _ hst) hlog)).part fun _ _ h' => hf.set _ _ _ _ hst h'

theorem told_eq (s : Logged σ) : Told Eq s s := .mk rfl s.log

/-- An action goes in step with itself. -/
theorem inStep_self (a : Act σ β) : InStep Eq (Told Eq) a a := by
  rintro ⟨s, log⟩ ⟨_, _⟩ ⟨rfl, hlog⟩
  cases hlog trivial
  exact (alike_refl _).mono fun s _ h => h ▸ told_eq s

end Telling

end RapidUpload.Step
