import RapidUpload.Source
import RapidUpload.Rehearsal.Stream
import RapidUpload.Proofs.Delivery

/-!
# What origins open to

Bytes in memory, a blocking reader and a stream that delivers all open to streams that deliver.

* `Origin.Opens`: what an origin opens to, by the name and the size in `Origin.label`.
* `Origin.Reads`: what the caller hands in holds a content that reads do not fail to give.
* `Source.Holds`: a source that delivers what its origin holds, with the size that was declared.
* `Source.enter_ends`: opening an origin gives such a source, or fails before anything is read.
-/

namespace RapidUpload

open Step

variable {ρ σ : Type} {limit : Nat}

/-- A read of bytes in memory gives a piece of what is left. -/
theorem Cursor.read_ends (c : Cursor) {ask : Int} (ha : 0 < ask) :
    Ends (Cursor.read (some ask)) c
      (fun out c' => IsPiece ask.toNat c.rest (some out) c'.rest)
      (fun _ _ => pow2 63 ≤ ask.toNat) := by
  rw [Cursor.read]
  by_cases hw : inWord ask = true
  · rw [hw, if_neg (by decide), if_neg (by omega)]
    exact ends_ok rfl (isPiece_window c.bytes c.position (Nat.le_refl _) (by omega))
  · rw [Bool.not_eq_true] at hw
    rw [hw]
    refine ends_throw.mpr ?_
    simp only [inWord, Bool.and_eq_false_iff, decide_eq_false_iff_not] at hw
    omega

namespace Rehearsal.Stream

/-- A stream without a failing read gives a piece of what is left at each, and goes on with the next
cap. -/
theorem read_piece {s : Stream} (hf : s.failing = none) {ask : Option Int} {n : Nat}
    (hle : s.share ask ≤ n) (hz : s.share ask = 0 → s.left = 0) :
    Ends (read ask) s
      (fun out s' => IsPiece n (s.bytes.since s.position) out (s'.bytes.since s'.position) ∧
        s'.failing = none ∧ s'.greedy = s.greedy ∧ s'.caps = nextCap s.caps)
      (fun _ _ => False) := by
  have hsize : (s.bytes.since s.position).size = s.left := ByteArray.size_since _ _
  have hnot : ¬ s.failing = some (s.reads + 1) := fun h => nomatch hf.symm.trans h
  unfold Ends read
  dsimp only
  rw [if_neg hnot]
  by_cases hend : s.left = 0 ∧ s.endsWithNothing = true
  · rw [if_pos hend]
    exact ⟨⟨(ByteArray.empty_append).symm, Nat.zero_le _, fun _ => hsize.trans hend.1⟩,
      hf, rfl, rfl⟩
  · rw [if_neg hend]
    exact ⟨isPiece_window s.bytes s.position hle fun h0 => Nat.sub_eq_zero_iff_le.mp (hz h0),
      hf, rfl, rfl⟩

theorem nextCap_subset (caps : List Nat) : nextCap caps ⊆ caps := by
  unfold nextCap
  split
  · exact List.subset_cons_self _ _
  · exact List.Subset.refl _

/-- Where every cap lets some bytes through, only the end gives none. -/
theorem left_of_share {s : Stream} (hc : ∀ cap ∈ s.caps, 0 < cap) {ask : Int} (ha : 0 < ask)
    (h0 : s.share (some ask) = 0) : s.left = 0 := by
  simp only [share, Bool.or_eq_true, decide_eq_true_eq] at h0
  cases hcaps : s.caps with
  | nil =>
    simp only [hcaps] at h0
    split at h0 <;> omega
  | cons cap rest =>
    have := hc cap (by rw [hcaps]; exact List.mem_cons_self)
    simp only [hcaps] at h0
    split at h0 <;> omega

/-- The stream gives some bytes at every read while any are left. -/
structure Giving (s : Stream) : Prop where
  greedy : s.greedy = false
  failing : s.failing = none
  caps : ∀ cap ∈ s.caps, 0 < cap

theorem Giving.share_le {s : Stream} (h : s.Giving) {ask : Int} (ha : 0 < ask) :
    s.share (some ask) ≤ ask.toNat := by
  simp only [share, h.greedy, Bool.or_false, decide_eq_true_eq, if_neg (by omega : ¬ ask < 0)]
  split <;> omega

/-- However a script splits the bytes, the stream delivers them. -/
theorem delivers {s : Stream} (h : s.Giving) (limit : Nat) :
    Delivers limit s (s.bytes.since s.position) := by
  refine ⟨fun s content => s.Giving ∧ content = s.bytes.since s.position, ?_, h, rfl⟩
  rintro s _ ask ⟨h, rfl⟩ ha
  refine (read_piece h.failing (h.share_le ha) (left_of_share h.caps ha)).mono ?_
    fun _ _ h => h.elim
  rintro out s' ⟨hp, hfailing, hgreedy, hcaps⟩
  have hs' : s'.Giving := ⟨hgreedy.trans h.greedy, hfailing, fun cap hcap =>
    h.caps cap (nextCap_subset _ (hcaps ▸ hcap))⟩
  exact ⟨_, hp, hs', rfl⟩

/-- From its start a stream delivers all of its bytes. -/
theorem delivers_bytes {s : Stream} (h : s.Giving) (hp : s.position = 0) (limit : Nat) :
    Delivers limit s s.bytes := by
  have hd := delivers h limit
  rwa [hp, ByteArray.since_zero] at hd

end Rehearsal.Stream

namespace Blocking

/-- A blocking reader of bytes reads as its bytes in memory do. -/
theorem read_ends {b : Blocking} (hb : b.givesText = false) {ask : Int} (ha : 0 < ask) :
    Ends (Blocking.read (some ask)) b
      (fun out b' => IsPiece ask.toNat b.cursor.rest (some out) b'.cursor.rest ∧
        b'.givesText = false)
      (fun _ _ => pow2 63 ≤ ask.toNat) := by
  have hread := Cursor.read_ends b.cursor ha
  unfold Ends Blocking.read
  cases hc : Cursor.read (some ask) b.cursor with
  | ok bytes c =>
    have hp := ends_of_ok hread hc
    simp only [hb, Bool.false_eq_true, if_false]
    exact ⟨hp, trivial⟩
  | error e c => exact ends_of_error hread hc

/-- Finding what remains leaves a reader where it stood. -/
theorem remaining_eq (b : Blocking) : ∃ n, Blocking.remaining b = .ok n b := by
  obtain ⟨cursor, seekable, name, givesText⟩ := b
  cases seekable with
  | false => exact ⟨_, rfl⟩
  | true => exact ⟨_, rfl⟩

end Blocking

namespace Opened

variable [Reader ρ]

/-- A read of what was opened is one of the stream inside. -/
theorem read_ends {wrap : σ → Opened ρ} {a : Step σ (Option ByteArray)} {s : σ} {ask : Option Int}
    {Q : Option ByteArray → Opened ρ → Prop} {E : Fault → Opened ρ → Prop}
    (hread : Reader.read ask (wrap s) = lift wrap (a s))
    (h : Ends a s (fun out t => Q out (wrap t)) (fun e t => E e (wrap t))) :
    Ends (Reader.read ask) (wrap s) Q E := by
  cases hs : a s with
  | ok out t =>
    have ht := ends_of_ok h hs
    exact ends_ok (hread.trans (by rw [hs]; rfl)) ht
  | error e t =>
    have ht := ends_of_error h hs
    exact ends_error (hread.trans (by rw [hs]; rfl)) ht

theorem delivers_stream {r : ρ} {content : ByteArray} (h : Delivers limit r content) :
    Delivers limit (Opened.stream r) content := by
  refine ⟨fun o content => ∃ r, o = .stream r ∧ Delivers limit r content, ?_, r, rfl, h⟩
  rintro _ content ask ⟨r, rfl, h⟩ ha
  refine read_ends rfl ((h.read ask ha).mono ?_ fun _ _ h => h)
  rintro out r' ⟨rest, hp, hr⟩
  exact ⟨rest, hp, r', rfl, hr⟩

theorem delivers_bytes (c : Cursor) (hl : limit < pow2 63) :
    Delivers limit (Opened.bytes c : Opened ρ) c.rest := by
  refine ⟨fun o content => ∃ c, o = .bytes c ∧ content = c.rest, ?_, c, rfl, rfl⟩
  rintro _ _ ask ⟨c, rfl, rfl⟩ ha
  refine read_ends (a := some <$> Cursor.read (some ask)) rfl
    (ends_map.mpr ((Cursor.read_ends c ha).mono ?_ fun _ _ h => by omega))
  exact fun out c' hp => ⟨_, hp, c', rfl, rfl⟩

theorem delivers_blocking {b : Blocking} (hb : b.givesText = false) (hl : limit < pow2 63) :
    Delivers limit (Opened.blocking b : Opened ρ) b.cursor.rest := by
  refine ⟨fun o content => ∃ b, o = .blocking b ∧ b.givesText = false ∧ content = b.cursor.rest, ?_,
    b, rfl, hb, rfl⟩
  rintro _ _ ask ⟨b, rfl, hb, rfl⟩ ha
  refine read_ends (a := some <$> Blocking.read (some ask)) rfl
    (ends_map.mpr ((Blocking.read_ends hb ha).mono ?_ fun _ _ h => by omega))
  exact fun out b' ⟨hp, hb'⟩ => ⟨_, hp, b', rfl, hb', rfl⟩

end Opened

namespace Origin

/-- The name an origin has of its own. -/
def ownName : Origin ρ → String
  | .path p => Path.lastName p
  | .blocking b => (b.name.map Path.lastName).getD ""
  | _ => ""

/-- The size an origin tells of itself. -/
def ownSize : Origin ρ → Option Int
  | .bytes b => some b.size
  | .blocking b => match Blocking.remaining b with
    | .ok n _ => n
    | .error _ _ => none
  | _ => none

/-- The name and the size an origin goes by, its own where none are given. -/
def label (name : Option String) (size : Option Int) (o : Origin ρ) : String × Option Int :=
  (Source.given name o.ownName, size.or o.ownSize)

/-- What opens without a look at the disk. -/
inductive Opens : Origin ρ → Opened ρ → Prop where
  | bytes (b : ByteArray) : Opens (.bytes b) (.bytes (.ofBytes b))
  | stream (r : ρ) : Opens (.stream r) (.stream r)
  | blocking (b : Blocking) : Opens (.blocking b) (.blocking b)

theorem Opens.resolve {o : Origin ρ} {stream : Opened ρ} (h : o.Opens stream) (disk : Disk)
    (name : Option String) (size : Option Int) (s : Logged σ) :
    Source.resolve disk name size o s = .ok (stream, o.label name size) s := by
  cases h with
  | bytes => cases size <;> rfl
  | stream => cases size <;> rfl
  | blocking b =>
    cases size with
    | some n => rfl
    | none =>
      obtain ⟨n, hn⟩ := Blocking.remaining_eq b
      unfold Source.resolve label ownSize
      dsimp only
      rw [hn]
      rfl

variable [Reader ρ] {content : ByteArray}

/-- What the caller hands in reads as the content, and no read for up to `limit` bytes fails. -/
def Reads (limit : Nat) (content : ByteArray) : Origin ρ → Prop
  | .stream r => Delivers limit r content
  | .bytes b => b = content ∧ limit < pow2 63
  | .blocking b => b.cursor.rest = content ∧ b.givesText = false ∧ limit < pow2 63
  | .path _ | .text | .unsupported _ => False

theorem Reads.opens {o : Origin ρ} (h : o.Reads limit content) : ∃ stream, o.Opens stream := by
  cases o with
  | bytes b => exact ⟨_, .bytes b⟩
  | stream r => exact ⟨_, .stream r⟩
  | blocking b => exact ⟨_, .blocking b⟩
  | path | text | unsupported => exact h.elim

/-- What an origin opens to delivers what the origin reads as. -/
theorem Opens.delivers {o : Origin ρ} {stream : Opened ρ} (h : o.Opens stream)
    (hr : o.Reads limit content) : Delivers limit stream content := by
  cases h with
  | bytes b =>
    obtain ⟨rfl, hl⟩ := hr
    have := Opened.delivers_bytes (ρ := ρ) (.ofBytes b) hl
    rwa [Cursor.rest, Cursor.ofBytes, ByteArray.since_zero] at this
  | stream r => exact Opened.delivers_stream hr
  | blocking b =>
    obtain ⟨rfl, hb, hl⟩ := hr
    exact Opened.delivers_blocking hb hl

end Origin

namespace Source

variable [Reader ρ]

/-- The source has the size that was declared, and delivers what its origin reads as. -/
structure Holds (size : Option Int) (o : Origin ρ) (source : Source ρ) : Prop where
  size_eq : ∀ n ∈ size, (source.size : Int) = n
  delivers : ∀ {limit content}, o.Reads limit content → Delivers limit source.stream content

/-- What an origin opens to delivers what it reads as, and the size declared stands. -/
theorem resolve_ends (disk : Disk) (name : Option String) (size : Option Int) (o : Origin ρ)
    (s : Logged σ) :
    Ends (resolve disk name size o) s
      (fun x t => t.state = s.state ∧ (∀ n ∈ size, x.2.2 = some n) ∧
        ∀ {limit content}, o.Reads limit content → Delivers limit x.1 content)
      (fun _ t => t.state = s.state) := by
  have opened : ∀ {stream : Opened ρ}, o.Opens stream → Ends (resolve disk name size o) s
      (fun x t => t.state = s.state ∧ (∀ n ∈ size, x.2.2 = some n) ∧
        ∀ {limit content}, o.Reads limit content → Delivers limit x.1 content)
      (fun _ t => t.state = s.state) := fun h =>
    ends_ok (h.resolve disk name size s) ⟨rfl, fun n hn => by cases hn; rfl, h.delivers⟩
  cases o with
  | path path =>
    unfold resolve
    dsimp only
    rw [ends_bind, ends_ofExcept]
    refine ⟨fun bytes _ => ?_, fun _ _ => rfl⟩
    rw [ends_bind, ends_ofExcept]
    refine ⟨fun digits _ => ?_, fun _ _ => rfl⟩
    rw [ends_bind, ends_tell, ends_pure]
    exact ⟨rfl, fun n hn => by cases hn; rfl, fun h => h.elim⟩
  | bytes b => exact opened (.bytes b)
  | stream r => exact opened (.stream r)
  | blocking b => exact opened (.blocking b)
  | text => exact ends_fail.mpr rfl
  | unsupported kind => exact ends_fail.mpr rfl

/-- **Opening.**  An origin opens to a source with its size that delivers what the origin reads
as; nothing else changes. -/
theorem enter_ends (disk : Disk) (name : Option String) (size : Option Int) (o : Origin ρ)
    (s : Logged σ) :
    Ends (enter disk name size o) s (fun source t => t.state = s.state ∧ source.Holds size o)
      (fun _ t => t.state = s.state) := by
  unfold enter
  rw [ends_bind]
  refine (resolve_ends disk name size o s).mono ?_ fun _ _ h => h
  rintro ⟨stream, name, size'⟩ ⟨t, log⟩ ⟨rfl, hsize, hd⟩
  dsimp only
  split
  · exact ends_fail.mpr rfl
  · cases size' with
    | none => exact ends_fail.mpr rfl
    | some n =>
      dsimp only
      split
      · exact ends_fail.mpr rfl
      · refine ends_pure.mpr ⟨rfl, fun m hm => ?_, hd⟩
        cases hsize m hm
        exact Int.toNat_of_nonneg (by omega)

end Source

end RapidUpload
