import RapidUpload.Possession
import RapidUpload.Proofs.Storage

/-!
# The window of a proof

The eight bytes that prove possession start where the token and the declared size put them, and
they are those of the content, as far as it reaches.

* `Possession.window?`: the bytes a token picks of a content under a declared size.
* `Possession.prove_ends`: a spill proves by that window of what it stores, unless the size or the
  token is none, or the file does not reach as far.
-/

namespace RapidUpload

open Step

namespace Possession

/-- Where the window starts that a token picks; none where the token has no bytes and some are
needed. -/
def start? (token : String) (size : Nat) : Option Nat :=
  if size = 0 then some 0 else (Text.utf8? token).map fun bytes => tokenNumber bytes % size

/-- The window that a token picks of a content under a declared size, as far as the content
reaches. -/
def window? (content : ByteArray) (token : String) (size : Nat) : Option ByteArray :=
  (start? token size).map fun start => content.window start (min windowSize (size - start))

/-- The fault of a proof that cannot be given: by the size or the token, or because files do not
reach as far as the window. -/
def Unprovable (reach : Nat) (token : String) (size : Int) (e : Fault) : Prop :=
  offset token size = .error e ∨ ∃ n start : Nat, size = n ∧ start? token n = some start ∧
    reach < start ∧ Spill.Unreached e

/-- A start that can be told is the one of a size. -/
theorem offset_ok {token : String} {size start : Int} (h : offset token size = .ok start) :
    ∃ n k : Nat, size = n ∧ start = k ∧ start? token n = some k := by
  unfold offset at h
  split at h
  · cases h
  · rename_i hneg
    obtain ⟨n, rfl⟩ := Int.eq_ofNat_of_zero_le (Int.not_lt.mp hneg)
    split at h
    · rename_i hz
      cases h
      exact ⟨n, 0, rfl, rfl, if_pos (Int.ofNat_eq_zero.mp hz)⟩
    · rename_i hz
      split at h
      · rename_i bytes hb
        cases h
        refine ⟨n, tokenNumber bytes % n, rfl, (Int.natCast_emod _ _).symm, ?_⟩
        rw [start?, if_neg (fun h => hz (by rw [h]; rfl)), hb, Option.map_some]
      · cases h

theorem offset_natCast {token : String} {size start : Nat} (h : start? token size = some start) :
    offset token size = .ok start := by
  unfold start? at h
  unfold offset
  rw [if_neg (by omega)]
  split at h
  · rename_i hz
    cases h
    rw [hz]
    rfl
  · rename_i hz
    obtain ⟨bytes, hb, rfl⟩ := Option.map_eq_some_iff.mp h
    rw [if_neg (by omega), hb]
    exact congrArg Except.ok (Int.natCast_emod _ _).symm

/-- The token picks a window under the size, and files reach as far. -/
def Provable (reach : Nat) (token : String) (size : Int) : Prop :=
  ∃ n start : Nat, size = n ∧ start? token n = some start ∧ start ≤ reach

/-- A token with bytes picks a window under all sizes within reach. -/
theorem provable {token : String} (h : (Text.utf8? token).isSome = true) {n reach : Nat}
    (hn : n ≤ reach) : Provable reach token n := by
  obtain ⟨bytes, hb⟩ := Option.isSome_iff_exists.mp h
  rcases Nat.eq_zero_or_pos n with rfl | hpos
  · exact ⟨0, 0, rfl, rfl, Nat.zero_le _⟩
  · refine ⟨n, tokenNumber bytes % n, rfl, ?_, ?_⟩
    · rw [start?, if_neg (Nat.ne_of_gt hpos), hb, Option.map_some]
    · exact Nat.le_trans (Nat.le_of_lt (Nat.mod_lt _ hpos)) hn

theorem Provable.not_unprovable {token : String} {size : Int} {reach : Nat}
    (h : Provable reach token size) (e : Fault) : ¬Unprovable reach token size e := by
  obtain ⟨n, start, rfl, hstart, hle⟩ := h
  rintro (he | ⟨n', start', hn, hstart', hlt, -⟩)
  · cases (offset_natCast hstart).symm.trans he
  · cases Int.ofNat_inj.mp hn
    cases hstart.symm.trans hstart'
    omega

theorem windowLength_natCast (start size : Nat) :
    windowLength start size = (min windowSize (size - start) : Nat) := by
  rw [windowLength]
  omega

end Possession

namespace Spill

/-- A read of a few bytes gives those at the position. -/
theorem read_of_lt {s : Spill} {cursor : FileCursor} (h : s.handle = some ⟨cursor, []⟩) {ask : Int}
    (ha : 0 < ask) (hroom : ask.toNat < cursor.limits.memory) :
    Spill.read (some ask) s = .ok (cursor.bytes.window cursor.position ask.toNat)
      (s.onto { cursor with position := cursor.position + min ask.toNat cursor.left }) := by
  rw [Spill.read, onFile_eq h, FileCursor.read_of_lt ha hroom]

end Spill

namespace Possession

/-- Proving reads the window of the file, and moves the spill at most. -/
theorem prove_moves {s : Spill} {cursor : FileCursor} (h : s.handle = some ⟨cursor, []⟩)
    (token : String) (size : Int) :
    Ends (prove token size) s
      (fun window s' => (∃ position, s' = s.onto { cursor with position := position }) ∧
        ∃ n start : Nat, size = n ∧ start? token n = some start ∧
          window.bytes = cursor.bytes.window start (min windowSize (n - start)))
      (fun e _ => Unprovable cursor.limits.reach token size e) := by
  unfold prove
  split
  · rename_i e he
    exact ends_throw.mpr (.inl he)
  · rename_i start hstart
    obtain ⟨n, k, rfl, rfl, hk⟩ := offset_ok hstart
    rw [windowLength_natCast]
    dsimp only
    split
    · rename_i hz
      have hempty : (cursor.bytes.window k 0).size = 0 := by
        rw [Sparse.size_window, Nat.zero_min]
      refine ends_pure.mpr ⟨⟨cursor.position, (Spill.onto_of_handle h).symm⟩, n, k, rfl, hk, ?_⟩
      rw [Int.ofNat_eq_zero.mp hz, ByteArray.size_eq_zero_iff.mp hempty]
    · rename_i hz
      rw [ends_bind]
      refine (Spill.seek_ends h k).mono ?_ fun e _ ⟨hlt, he⟩ => .inr ⟨n, k, rfl, hk, hlt, he⟩
      rintro _ _ rfl
      have hroom : windowSize < cursor.limits.memory :=
        Nat.lt_trans (by decide) cursor.limits.lt_memory
      have hlt : ((min windowSize (n - k) : Nat) : Int).toNat < cursor.limits.memory := by omega
      rw [ends_bind]
      refine ends_map.mpr (ends_ok (Spill.read_of_lt (s := s.onto { cursor with position := k }) rfl
        (by omega) hlt) ?_)
      rw [ends_pure, Int.toNat_natCast]
      exact ⟨⟨_, rfl⟩, n, k, rfl, hk, rfl⟩

/-- **Proving.**  A spill shows the window of what it stores, and stores it still. -/
theorem prove_ends {s : Spill} {limits : FileLimits} {content : ByteArray}
    (h : s.Stores limits content) (token : String) (size : Int) :
    Ends (prove token size) s
      (fun window s' => s'.Stores limits content ∧
        ∃ n : Nat, size = n ∧ window? content token n = some window.bytes)
      (fun e _ => Unprovable limits.reach token size e) := by
  obtain ⟨cursor, hc, rfl, hb⟩ := h
  refine (prove_moves hc token size).mono ?_ fun _ _ he => he
  rintro window _ ⟨⟨position, rfl⟩, n, start, rfl, hstart, hw⟩
  refine ⟨⟨_, rfl, rfl, hb⟩, n, rfl, ?_⟩
  rw [window?, hstart, Option.map_some, hw, hb.2]

end Possession

end RapidUpload
