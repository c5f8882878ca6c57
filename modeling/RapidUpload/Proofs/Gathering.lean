import Mathlib.Algebra.GroupWithZero.Nat
import RapidUpload.Proofs.Opening
import RapidUpload.Proofs.Tracked

/-!
# Gathering a count

A call for a count reads until it has so many bytes or the stream ends, however the stream splits
them.  Where no read gives more than it was asked for, a call gives exactly its count of the next
bytes, or all that are left, and two calls in a row do what one for both counts does.  A stream that
gives too much at a read still loses nothing: the call hands on all that came.

* `Measured r content`: the stream gives the content, each read at most what it asks for.
* `Poured r content`: the stream gives the content, each read as much as the stream likes.
* `Asks n fetches`: reads of a call for `n` bytes, each for what is still wanted.
* `Tracked.Exact t rest`: what calls do from here on, where `rest` is still to come.
* `Reader.readCount_exact`: any calls on a measured stream, and any on a poured one.
-/

namespace RapidUpload

open Step

variable {ρ : Type}

/-! ### Streams -/

section Streams

variable [Reader ρ] {limit n : Nat}

/-- The stream delivers the content, and no read for a count fails: while bytes are left, each gives
at least one and at most as many as are asked for. -/
def Measured (r : ρ) (content : ByteArray) : Prop := ∀ limit, Delivers limit r content

/-- Whatever a read asks for, it leaves a stream of this kind. -/
theorem keeps_measured : Keeps limit (Measured : ρ → ByteArray → Prop) := by
  intro r content ask h ha
  cases hx : (Reader.read (some ask) r : EStateM.Result Fault ρ (Option ByteArray)) with
  | error e r' =>
    exact absurd (ends_of_error ((h ask.toNat).read ask ha) hx) (Nat.lt_irrefl _)
  | ok out r' =>
    obtain ⟨rest, hp, -⟩ := ends_of_ok ((h limit).read ask ha) hx
    refine ends_ok hx ⟨rest, hp, fun limit' => ?_⟩
    -- what is left does not depend on the limit, as the read took the same off the content
    obtain ⟨rest', hp', hr'⟩ := ends_of_ok ((h limit').read ask ha) hx
    rwa [← hp.rest_eq, hp'.rest_eq]

/-- Every read for a count gives some piece of what is left, none only at the end, and keeps `R`
between a stream and what it has still to give. -/
def Pours (R : ρ → ByteArray → Prop) : Prop :=
  ∀ {r : ρ} {content : ByteArray} {ask : Int}, R r content → 0 < ask →
    Ends (Reader.read (some ask)) r
      (fun out r' => ∃ size rest, IsPiece size content out rest ∧ R r' rest)
      (fun _ _ => False)

/-- The stream gives the content in pieces of any size. -/
def Poured (r : ρ) (content : ByteArray) : Prop := ∃ R : ρ → ByteArray → Prop, Pours R ∧ R r content

variable {R : ρ → ByteArray → Prop} {r : ρ} {content : ByteArray}

/-- Reading up to a count takes at least so many bytes of the stream, or all. -/
theorem Pours.readUpTo_ends (hR : Pours R) (h : R r content) :
    Ends (Reader.readUpTo n) r
      (fun bytes r' => ∃ rest, content = bytes ++ rest ∧ (n ≤ bytes.size ∨ rest.size = 0) ∧
        R r' rest)
      (fun _ _ => False) := by
  -- on the count still wanted, which a read may take to nothing at once
  induction n using Nat.strongRecOn generalizing r content with
  | ind n ih =>
    unfold Reader.readUpTo
    split
    · rename_i hn
      exact ends_pure.mpr ⟨content, ByteArray.empty_append.symm, .inl (Nat.le_of_eq hn), h⟩
    · rename_i hn
      have atEnd : ∀ {r' : ρ} {out : Option ByteArray} {size : Nat} {rest : ByteArray},
          IsPiece size content out rest → R r' rest → (out.getD .empty).size = 0 →
          ∃ rest, content = .empty ++ rest ∧ (n ≤ ByteArray.empty.size ∨ rest.size = 0) ∧
            R r' rest := by
        intro r' out size rest hp hr hz
        have hrest := hp.rest_eq
        rw [hz, ByteArray.since_zero] at hrest
        exact ⟨content, ByteArray.empty_append.symm, .inr (hp.empty hz), hrest ▸ hr⟩
      refine ends_bind.mpr ((hR h (by omega : (0 : Int) < n)).mono ?_ fun _ _ h => h)
      rintro (_ | bytes) r' ⟨size, rest, hp, hr⟩
      · exact ends_pure.mpr (atEnd hp hr rfl)
      · dsimp only
        split
        · rename_i hz
          exact ends_pure.mpr (atEnd hp hr hz)
        · refine ends_bind.mpr ((ih (n - bytes.size) (by omega) hr).mono ?_ fun _ _ h => h)
          rintro more r'' ⟨rest', rfl, hmore, hr'⟩
          refine ends_pure.mpr ⟨rest', ?_, ?_, hr'⟩
          · rw [ByteArray.append_assoc]
            exact hp.split
          · rw [ByteArray.size_append]
            omega

/-- Call after call takes the content off its start, at least as much as all of them ask for. -/
theorem Pours.calls_end (hR : Pours R) (sizes : List Int) (h : R r content) :
    Ends (sizes.mapM Reader.readCount) r
      (fun outs r' => ∃ rest, content = ByteArray.join outs ++ rest ∧
        ((sizes.map Int.toNat).sum ≤ (ByteArray.join outs).size ∨ rest.size = 0) ∧ R r' rest)
      (fun _ _ => False) := by
  induction sizes generalizing r content with
  | nil =>
    rw [List.mapM_nil, ends_pure]
    exact ⟨content, ByteArray.empty_append.symm, .inl (Nat.le_refl _), h⟩
  | cons size sizes ih =>
    rw [List.mapM_cons, ends_bind]
    refine (hR.readUpTo_ends h).mono ?_ fun _ _ h => h
    rintro bytes r' ⟨rest, rfl, hbytes, hr⟩
    rw [ends_bind]
    refine (ih hr).mono ?_ fun _ _ h => h
    rintro outs r'' ⟨rest', rfl, houts, hr'⟩
    refine ends_pure.mpr ⟨rest', ?_, ?_, hr'⟩
    · rw [ByteArray.join_cons, ByteArray.append_assoc]
    · rw [ByteArray.size_append] at hbytes
      rw [ByteArray.join_cons, ByteArray.size_append, List.map_cons, List.sum_cons]
      omega

end Streams

/-! ### What a call asks for -/

/-- Reads of a call for `n` bytes, in their order: each asks for what those before it left wanting,
and once nothing is wanted there are no more. -/
inductive Asks : Nat → List Fetch → Prop where
  | nil (n : Nat) : Asks n []
  | cons {n : Nat} {x : Fetch} {later : List Fetch} (hask : x.ask = some (n : Int)) (hn : 0 < n)
      (h : Asks (n - x.bytes.size) later) : Asks n (x :: later)

namespace Tracked

/-- Between the two states of a tracked stream lie the reads of a call for `n` bytes. -/
def Asked (n : Nat) (t t' : Tracked ρ) : Prop :=
  ∃ fetches, t'.fetches = t.fetches ++ fetches ∧ Asks n fetches

variable [Reader ρ]

/-- **A call never asks for more than it still wants**, whatever the stream gives and however the
call ends. -/
theorem readUpTo_asks (n : Nat) (t : Tracked ρ) :
    Ends (Reader.readUpTo n) t (fun _ t' => t.Asked n t') (fun _ t' => t.Asked n t') := by
  -- on the count still wanted: a read that gives something is followed by a call for the others
  induction n using Nat.strongRecOn generalizing t with
  | ind n ih =>
    unfold Reader.readUpTo
    split
    · exact ends_pure.mpr ⟨[], (List.append_nil _).symm, .nil n⟩
    · rename_i hn
      have hpos : 0 < n := Nat.pos_of_ne_zero hn
      have last : ∀ (result : Except Fault (Option ByteArray)) (r : ρ),
          t.Asked n (t.note (some (n : Int)) result r) := fun result r =>
        ⟨[⟨some (n : Int), result⟩], rfl, .cons rfl hpos (.nil _)⟩
      refine ends_bind.mpr (ends_read.mpr ((ends_run _ _).mono ?_ fun _ _ _ => last _ _))
      rintro (_ | bytes) r -
      · exact ends_pure.mpr (last _ _)
      · dsimp only
        split
        · exact ends_pure.mpr (last _ _)
        · have onward : ∀ {t' : Tracked ρ},
              (t.note (some (n : Int)) (.ok (some bytes)) r).Asked (n - bytes.size) t' →
                t.Asked n t' := by
            rintro t' ⟨fetches, ht', hasks⟩
            refine ⟨⟨some (n : Int), .ok (some bytes)⟩ :: fetches, ?_, .cons rfl hpos hasks⟩
            rw [ht', note, List.append_assoc, List.singleton_append]
          refine ends_bind.mpr ((ih _ (by omega) _).mono ?_ fun _ _ h => onward h)
          exact fun more t' h => ends_pure.mpr (onward h)

end Tracked

/-! ### Calls on a measured stream -/

section Calls

variable [Reader ρ] {t : Tracked ρ} {rest : ByteArray}

/-- A call gives the next bytes, as many as it asks for, and leaves the others to come. -/
theorem Measured.call (h : Measured t.stream rest) (n : Int) :
    ∃ t', Reader.readCount n t = .ok (rest.window 0 n.toNat) t' ∧
      Measured t'.stream (rest.since n.toNat) ∧ t.Asked n.toNat t' := by
  have hkeeps : Keeps n.toNat
      (Tracked.Along (Measured : ρ → ByteArray → Prop) (t.taken ++ rest)) :=
    Keeps.tracked keeps_measured _
  have hrun := (hkeeps.readUpTo_ends (n := n.toNat) ⟨h, rfl⟩).and (t.readUpTo_asks n.toNat)
  obtain ⟨bytes, t', hcall, ⟨rfl, hrest⟩, hasked⟩ :=
    ok_of_ends (hrun.mono (fun _ _ h => h) fun _ _ h => Nat.lt_irrefl _ h.1)
  exact ⟨t', hcall, hrest.stream, hasked⟩

/-- A content cut at one count after the other. -/
def cuts (content : ByteArray) : List Int → List ByteArray
  | [] => []
  | n :: sizes => content.window 0 n.toNat :: cuts (content.since n.toNat) sizes

/-- Call after call cuts what is to come at the counts. -/
theorem Measured.calls (h : Measured t.stream rest) (sizes : List Int) :
    Ends (sizes.mapM Reader.readCount) t
      (fun outs t' => outs = cuts rest sizes ∧
        Measured t'.stream (rest.since (sizes.map Int.toNat).sum))
      (fun _ _ => False) := by
  induction sizes generalizing t rest with
  | nil =>
    rw [List.mapM_nil, ends_pure]
    exact ⟨rfl, rest.since_zero.symm ▸ h⟩
  | cons n sizes ih =>
    obtain ⟨t', hcall, ht', -⟩ := h.call n
    rw [List.mapM_cons, ends_bind]
    refine ends_ok hcall (ends_bind.mpr ((ih ht').mono ?_ fun _ _ h => h))
    rintro _ t'' ⟨rfl, ht''⟩
    rw [ByteArray.since_since] at ht''
    exact ends_pure.mpr ⟨rfl, ht''⟩

/-- From here on, with `rest` still to come, a call for any count ends well, gives so many of the
next bytes or all of them, and asks for no more than it wants; and two calls in a row give the bytes
and leave the bytes that one for both counts does. -/
structure Tracked.Exact (t : Tracked ρ) (rest : ByteArray) : Prop where
  call (n : Int) : ∃ bytes left t', Reader.readCount n t = .ok bytes t' ∧ rest = bytes ++ left ∧
    (bytes.size : Int) = min (max n 0) rest.size ∧ Measured t'.stream left ∧ t.Asked n.toNat t'
  add {a b : Int} (ha : 0 ≤ a) (hb : 0 ≤ b) : ∃ x y left t₁ t₂ t₃,
    Reader.readCount a t = .ok x t₁ ∧ Reader.readCount b t₁ = .ok y t₂ ∧
      Reader.readCount (a + b) t = .ok (x ++ y) t₃ ∧
      Measured t₂.stream left ∧ Measured t₃.stream left

theorem Measured.exact (h : Measured t.stream rest) : t.Exact rest where
  call n := by
    obtain ⟨t', hcall, ht', hasked⟩ := h.call n
    refine ⟨_, _, t', hcall, (ByteArray.window_append_since rest n.toNat).symm, ?_, ht', hasked⟩
    rw [ByteArray.size_window]
    omega
  add {a b} ha hb := by
    obtain ⟨t₁, hfirst, ht₁, -⟩ := h.call a
    obtain ⟨t₂, hsecond, ht₂, -⟩ := ht₁.call b
    obtain ⟨t₃, hboth, ht₃, -⟩ := h.call (a + b)
    have hcount : (a + b).toNat = a.toNat + b.toNat := Int.toNat_add ha hb
    refine ⟨_, _, _, t₁, t₂, t₃, hfirst, hsecond, ?_, ht₂, ?_⟩
    · rw [hboth, hcount, ByteArray.window_since, ← ByteArray.window_append_window, Nat.zero_add,
        Nat.add_zero]
    · rwa [ByteArray.since_since, ← hcount]

end Calls

/-- **Gathering is exact, and it adds up.**  Calls for any counts on a measured stream all end well
and cut the content at the counts, one after the other, and whatever calls came before, the next one
is exact.  On a stream that gives as much at a read as it likes they lose and repeat nothing:
together they give a beginning of the content, at least as much as they asked for or all of it, and
the stream goes on with the rest. -/
theorem Reader.readCount_exact [Reader ρ] {r : ρ} {content : ByteArray} :
    (Measured r content → ∀ sizes : List Int, ∃ t,
      sizes.mapM Reader.readCount (Tracked.ofStream r) = .ok (cuts content sizes) t ∧
        t.Exact (content.since (sizes.map Int.toNat).sum)) ∧
    (Poured r content → ∀ sizes : List Int, ∃ outs r' rest,
      sizes.mapM Reader.readCount r = .ok outs r' ∧ content = ByteArray.join outs ++ rest ∧
        ((sizes.map Int.toNat).sum ≤ (ByteArray.join outs).size ∨ ByteArray.join outs = content) ∧
        Poured r' rest) := by
  refine ⟨fun h sizes => ?_, fun ⟨R, hR, hr⟩ sizes => ?_⟩
  · have hstart : Measured (Tracked.ofStream r).stream content := h
    obtain ⟨_, t, hcalls, rfl, ht⟩ := ok_of_ends (hstart.calls sizes)
    exact ⟨t, hcalls, ht.exact⟩
  · obtain ⟨outs, r', hcalls, rest, hsplit, henough, hr'⟩ := ok_of_ends (hR.calls_end sizes hr)
    refine ⟨outs, r', rest, hcalls, hsplit, henough.imp_right fun hz => ?_, R, hR, hr'⟩
    rw [hsplit, ByteArray.size_eq_zero_iff.mp hz, ByteArray.append_empty]

/-! ### Scripted streams -/

namespace Rehearsal.Stream

/-- However a script splits the bytes, no read fails. -/
theorem Giving.measured {s : Stream} (h : s.Giving) : Measured s (s.bytes.since s.position) :=
  delivers h

/-- A script that also gives more than it is asked for pours. -/
theorem poured {s : Stream} (hf : s.failing = none) (hc : ∀ cap ∈ s.caps, 0 < cap) :
    Poured s (s.bytes.since s.position) := by
  refine ⟨fun s content => (s.failing = none ∧ ∀ cap ∈ s.caps, 0 < cap) ∧
    content = s.bytes.since s.position, ?_, ⟨hf, hc⟩, rfl⟩
  rintro s _ ask ⟨⟨hf, hc⟩, rfl⟩ ha
  refine (read_piece hf (Nat.le_refl _) (left_of_share hc ha)).mono ?_ fun _ _ h => h
  rintro out s' ⟨hp, hf', -, hcaps⟩
  exact ⟨_, _, hp, ⟨hf', fun cap hcap => hc cap (nextCap_subset _ (hcaps ▸ hcap))⟩, rfl⟩

end Rehearsal.Stream

namespace Rehearsal

/-- Three bytes. -/
def three : ByteArray := ⟨#[1, 2, 3]⟩

/-- Three bytes that come one at a time. -/
def trickle : Stream := ⟨three, 0, [1], false, none, true, 0⟩

/-- Three bytes that come two at a time, whatever is asked for. -/
def gush : Stream := ⟨three, 0, [2], true, none, false, 0⟩

end Rehearsal

open Rehearsal (three trickle gush)

/-- Three bytes are gathered from a stream that gives too little at a read and from one that gives
too much. -/
theorem Reader.readCount_exact_three :
    (Measured trickle three ∧ ∃ t,
      [2, -1, 5].mapM Reader.readCount (Tracked.ofStream trickle) =
          .ok [⟨#[1, 2]⟩, .empty, ⟨#[3]⟩] t ∧ t.Exact .empty) ∧
      Poured gush three ∧ ∃ outs r' rest,
        [1, 1].mapM Reader.readCount gush = .ok outs r' ∧ three = ByteArray.join outs ++ rest ∧
          (2 ≤ (ByteArray.join outs).size ∨ ByteArray.join outs = three) ∧ Poured r' rest := by
  have hgiving : trickle.Giving := ⟨rfl, rfl, by decide⟩
  have hmeasured : Measured trickle three := hgiving.measured
  have hpoured : Poured gush three := Rehearsal.Stream.poured rfl (by decide)
  exact ⟨⟨hmeasured, readCount_exact.1 hmeasured [2, -1, 5]⟩, hpoured,
    readCount_exact.2 hpoured [1, 1]⟩

end RapidUpload
