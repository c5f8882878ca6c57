import RapidUpload.Proofs.Base64
import RapidUpload.Proofs.Window

/-!
# The window and what is asked of a source

A proof goes to one position of a source and reads once from there.  A source that keeps a record
of its calls shows how far the read goes: never past the declared size, whatever the source does.

* `Possession.start?_lt`: a window starts under the size, and under `pow2 64`.
* `Possession.Asked`: a source with the record of its calls; `prove_asks` says which calls a proof
  makes, and `prove_asked` that the record changes nothing.
* `Possession.Holds`: a source that can be positioned over a content, with `Cursor.holds` and
  `Spill.Stores.holds`.
* `Possession.prove_window`: the window of a proof is the server's.
-/

namespace RapidUpload

open Step

/-! ### Numbers written in hexadecimal -/

namespace Hex

theorem value?_lt {c : Char} {n : Nat} (h : value? c = some n) : n < 16 := by
  have toNat_le : ∀ {d : Char}, c ≤ d → c.toNat ≤ d.toNat := fun h => Char.le_def.mp h
  simp only [value?] at h
  split at h
  · rename_i hc
    cases h
    have hle : c.toNat ≤ 57 := toNat_le hc.2
    omega
  · split at h
    · rename_i hc
      cases h
      have hle : c.toNat ≤ 102 := toNat_le hc.2
      omega
    · split at h
      · rename_i hc
        cases h
        have hle : c.toNat ≤ 70 := toNat_le hc.2
        omega
      · cases h

theorem value?_getD_lt (c : Char) : (value? c).getD 0 < 16 := by
  cases h : value? c with
  | none => decide
  | some n => exact value?_lt h

/-- A row of digits stands for a number of four bits a digit. -/
theorem natOf_lt (cs : List Char) : natOf cs < pow2 (4 * cs.length) := by
  -- the digits read so far move up by one place at each further one
  have hfold : ∀ n, cs.foldl (fun n c => 16 * n + (value? c).getD 0) n <
      16 ^ cs.length * (n + 1) := by
    induction cs with
    | nil => simp
    | cons c cs ih =>
      intro n
      have hc := value?_getD_lt c
      calc (c :: cs).foldl (fun n c => 16 * n + (value? c).getD 0) n
          < 16 ^ cs.length * (16 * n + (value? c).getD 0 + 1) := ih _
        _ ≤ 16 ^ cs.length * (16 * (n + 1)) := Nat.mul_le_mul_left _ (by omega)
        _ = 16 ^ (c :: cs).length * (n + 1) := by
          rw [List.length_cons, Nat.pow_succ, Nat.mul_assoc]
  have hpow : pow2 (4 * cs.length) = 16 ^ cs.length := Nat.pow_mul 2 4 _
  rw [hpow]
  simpa [natOf] using hfold 0

end Hex

namespace Possession

theorem tokenNumber_lt (token : ByteArray) : tokenNumber token < pow2 64 := by
  have hlength : ((md5.hex token).toList.take digits).length ≤ digits := by
    rw [List.length_take]
    exact Nat.min_le_left _ _
  calc tokenNumber token < pow2 (4 * ((md5.hex token).toList.take digits).length) := Hex.natOf_lt _
    _ ≤ pow2 (4 * digits) := Nat.pow_le_pow_right (by decide) (Nat.mul_le_mul_left 4 hlength)
    _ = pow2 64 := rfl

/-- A token with bytes has a window under every size, and where the size is none it needs no
bytes. -/
theorem exists_start {token : String} {size : Nat}
    (h : size = 0 ∨ (Text.utf8? token).isSome = true) :
    ∃ start, start? token size = some start := by
  unfold start?
  split
  · exact ⟨0, rfl⟩
  · rename_i hz
    obtain ⟨bytes, hb⟩ := Option.isSome_iff_exists.mp (h.resolve_left hz)
    exact ⟨_, by rw [hb, Option.map_some]⟩

/-- **Where a window starts**: under `pow2 64`, and under the size unless that is none. -/
theorem start?_lt {token : String} {size start : Nat} (h : start? token size = some start) :
    start < pow2 64 ∧ (0 < size → start < size) := by
  unfold start? at h
  split at h
  · rename_i hz
    cases h
    exact ⟨by decide, fun hpos => hz ▸ hpos⟩
  · obtain ⟨bytes, -, rfl⟩ := Option.map_eq_some_iff.mp h
    exact ⟨Nat.lt_of_le_of_lt (Nat.mod_le _ _) (tokenNumber_lt bytes), Nat.mod_lt _⟩

/-! ### Sources with a record -/

/-- A call of a source. -/
inductive Ask where
  | seek (position : Int)
  | read (count : Option Int)

/-- A source with the record of its calls. -/
structure Asked (ρ : Type) where
  source : ρ
  asks : List Ask

namespace Asked

variable {ρ β : Type}

/-- Makes a call and records it, whichever way it ends. -/
def record (ask : Ask) (a : Step ρ β) : Step (Asked ρ) β := fun s =>
  match a s.source with
  | .ok b r => .ok b ⟨r, s.asks ++ [ask]⟩
  | .error e r => .error e ⟨r, s.asks ++ [ask]⟩

theorem ends_record {ask : Ask} {a : Step ρ β} {s : Asked ρ} {Q : β → Asked ρ → Prop}
    {E : Fault → Asked ρ → Prop} : Ends (record ask a) s Q E ↔
      Ends a s.source (fun b r => Q b ⟨r, s.asks ++ [ask]⟩)
        (fun e r => E e ⟨r, s.asks ++ [ask]⟩) := by
  unfold Ends record
  cases a s.source <;> rfl

instance [Seekable ρ] : Seekable (Asked ρ) where
  read count := record (.read count) (Reader.read count)
  left s := Reader.left s.source
  left_read {count s s' out} h := by
    unfold record at h
    split at h
    · rename_i hread
      cases h
      exact Reader.left_read hread
    · cases h
  seek position := record (.seek position) (Seekable.seek position)

end Asked

/-- The calls of a proof: one move to the start and one read of the window, and none for an empty
file. -/
def calls (start size : Nat) : List Ask :=
  if size = 0 then [] else [.seek start, .read (some (windowLength start size))]

/-- The window of a size that is not none has a byte at least, and ends by the size. -/
theorem windowLength_bounds {token : String} {size start : Nat} (h : start? token size = some start)
    (hpos : 0 < size) : 1 ≤ windowLength start size ∧ windowLength start size ≤ windowSize ∧
      start + windowLength start size ≤ size := by
  have hlt := (start?_lt h).2 hpos
  rw [windowLength_natCast]
  have hsize : windowSize = 8 := rfl
  omega

section Recorded

variable {ρ : Type} [Seekable ρ]

/-- **What a proof asks for.**  A source with a record proves as it does without one, and the record
is that of the calls, up to the one that fails if one does. -/
theorem prove_asks {token : String} {size start : Nat} (h : start? token size = some start)
    (r : ρ) :
    Ends (prove token size) (⟨r, []⟩ : Asked ρ)
      (fun window t => prove token size r = .ok window t.source ∧ t.asks = calls start size)
      (fun e t => prove token size r = .error e t.source ∧ t.asks <+: calls start size) := by
  unfold prove
  simp only [offset_natCast h]
  rcases Nat.eq_zero_or_pos size with hz | hpos
  · have hlength : windowLength start size = 0 := by
      rw [windowLength_natCast]
      omega
    rw [if_pos hlength, if_pos hlength, calls, if_pos hz]
    exact ends_pure.mpr ⟨rfl, rfl⟩
  · have hlength : windowLength start size ≠ 0 := by
      have := (windowLength_bounds h hpos).1
      omega
    have hcalls : calls start size = [.seek start, .read (some (windowLength start size))] :=
      if_neg (Nat.ne_of_gt hpos)
    rw [if_neg hlength, if_neg hlength, hcalls, ends_bind]
    refine Asked.ends_record.mpr ((ends_run _ _).mono ?_ ?_)
    · intro position r' hseek
      rw [ends_bind]
      refine Asked.ends_record.mpr ((ends_run _ _).mono ?_ ?_)
      · intro out r'' hread
        rw [ends_pure]
        simp only [Bind.bind, EStateM.bind, hseek, hread]
        exact ⟨rfl, rfl⟩
      · intro e r'' hread
        simp only [Bind.bind, EStateM.bind, hseek, hread]
        exact ⟨trivial, List.prefix_refl _⟩
    · intro e r' hseek
      simp only [Bind.bind, EStateM.bind, hseek]
      exact ⟨trivial, _, rfl⟩

end Recorded

/-! ### Sources over a content -/

section Positions

variable {ρ : Type} [Seekable ρ]

/-- `R` says where in the content a source stands: it can be moved up to `reach`, and a read for up
to `limit` bytes gives those at the position, as far as the content reaches. -/
structure Places (reach limit : Nat) (content : ByteArray) (R : ρ → Nat → Prop) : Prop where
  seek : ∀ {r : ρ} {position n : Nat}, R r position → n ≤ reach →
    Ends (Seekable.seek n) r (fun _ r' => R r' n) (fun _ _ => False)
  read : ∀ {r : ρ} {position n : Nat}, R r position → 0 < n → n ≤ limit →
    Ends (Reader.read (some n)) r
      (fun out r' => out.getD .empty = content.window position n ∧
        R r' (position + min n (content.size - position)))
      (fun _ _ => False)

/-- The source holds the content and can be positioned in it. -/
def Holds (reach limit : Nat) (r : ρ) (content : ByteArray) : Prop :=
  ∃ (R : ρ → Nat → Prop) (position : Nat), Places reach limit content R ∧ R r position

/-- A source that holds a content proves by the window of the content. -/
theorem Holds.prove_ends {token : String} {size start reach limit : Nat} {r : ρ}
    {content : ByteArray} (h : Holds reach limit r content)
    (hstart : start? token size = some start)
    (hreach : start ≤ reach) (hlimit : windowSize ≤ limit) :
    Ends (prove token size) r
      (fun window _ => window.offset = start ∧
        window.bytes = content.extract start (min (start + windowSize) size))
      (fun _ _ => False) := by
  obtain ⟨R, position, hR, hr⟩ := h
  unfold prove
  simp only [offset_natCast hstart, windowLength_natCast]
  split
  · rename_i hz
    have hempty : min (start + windowSize) size ≤ start := by
      have hsize : windowSize = 8 := rfl
      omega
    exact ends_pure.mpr ⟨rfl, (ByteArray.extract_eq_empty_iff.mpr (by omega)).symm⟩
  · rename_i hz
    rw [ends_bind]
    refine (hR.seek hr hreach).mono ?_ fun _ _ h => h
    intro _ r' hr'
    rw [ends_bind]
    have hle : min windowSize (size - start) ≤ limit := Nat.le_trans (Nat.min_le_left _ _) hlimit
    refine (hR.read hr' (by omega) hle).mono ?_ fun _ _ h => h
    rintro out r'' ⟨hout, -⟩
    have hstop : start + min windowSize (size - start) = min (start + windowSize) size := by omega
    refine ends_pure.mpr ⟨rfl, ?_⟩
    rw [hout, ByteArray.window_eq_extract, hstop]

end Positions

end Possession

/-- The most a position or a count of memory can be. -/
def Cursor.wordLimit : Nat := pow2 63 - 1

/-- Bytes in memory are held wherever they stand. -/
theorem Cursor.holds (c : Cursor) : Possession.Holds wordLimit wordLimit c c.bytes := by
  have inWord_of_le : ∀ {n : Nat}, n ≤ wordLimit → inWord n = true := fun h =>
    FileCursor.inWord_of_lt (Nat.lt_of_le_of_lt h (by decide : wordLimit < pow2 63))
  refine ⟨fun d position => d.bytes = c.bytes ∧ d.position = position, c.position, ⟨?_, ?_⟩, rfl,
    rfl⟩
  · rintro d position n ⟨hb, -⟩ hn
    refine ends_ok (t := { d with position := n }) (b := (n : Int)) ?_ ⟨hb, rfl⟩
    change Cursor.seek n d = _
    rw [Cursor.seek, inWord_of_le hn, if_neg (by decide), if_neg (by omega), Int.toNat_natCast]
  · rintro d position n ⟨hb, rfl⟩ hpos hn
    refine ends_map.mpr (ends_ok (b := d.bytes.window d.position n)
      (t := { d with position := d.position + min n (d.bytes.size - d.position) }) ?_ ?_)
    · rw [Cursor.read, inWord_of_le hn, if_neg (by decide), if_neg (by omega), Int.toNat_natCast]
      rfl
    · exact ⟨by rw [Option.getD_some, hb], hb, by rw [hb]⟩

/-- A spill holds what it stores, as far as its file reaches. -/
theorem Spill.Stores.holds {s : Spill} {limits : FileLimits} {content : ByteArray}
    (h : s.Stores limits content) :
    Possession.Holds limits.reach limits.largest s content := by
  obtain ⟨cursor, hc, hl, hb⟩ := h
  refine ⟨fun s position => ∃ cursor, s.handle = some ⟨cursor, []⟩ ∧ cursor.limits = limits ∧
    cursor.bytes.Holds content ∧ cursor.position = position, cursor.position, ⟨?_, ?_⟩,
    cursor, hc, hl, hb, rfl⟩
  · rintro s position n ⟨cursor, hc, rfl, hb, -⟩ hn
    refine (Spill.seek_ends hc n).mono ?_ fun _ _ ⟨hlt, _⟩ => absurd hlt (Nat.not_lt.mpr hn)
    rintro _ _ rfl
    exact ⟨_, rfl, rfl, hb, rfl⟩
  · rintro s position n ⟨cursor, hc, rfl, hb, rfl⟩ hpos hn
    have hroom : n < cursor.limits.memory := Nat.lt_of_le_of_lt hn cursor.limits.largest_lt
    refine ends_map.mpr (ends_ok (Spill.read_of_lt hc (by omega) (by omega)) ?_)
    rw [Int.toNat_natCast, FileCursor.left, hb.1]
    exact ⟨hb.2 _ _, _, rfl, rfl, hb, rfl⟩

namespace Possession

/-- **The window of a proof.**  It is the server's: it starts where the number of the token puts it
under the size, which is under `pow2 64`, and has one byte to eight up to the size.  Nothing past
the size is asked of any source, and a source that holds a content shows the window of it, which
reads back from the text that is sent. -/
theorem prove_window {token : String} {size : Nat}
    (h : size = 0 ∨ (Text.utf8? token).isSome = true) :
    ∃ start : Nat, offset token size = .ok start ∧ start? token size = some start ∧
      (size = 0 → start = 0) ∧ start < pow2 64 ∧
      (0 < size → start < size ∧ 1 ≤ windowLength start size ∧ windowLength start size ≤ 8 ∧
        start + windowLength start size ≤ size) ∧
      ∀ {ρ : Type} [Seekable ρ] (r : ρ),
        Ends (prove token size) (⟨r, []⟩ : Asked ρ)
          (fun window t => prove token size r = .ok window t.source ∧ t.asks = calls start size)
          (fun e t => prove token size r = .error e t.source ∧ t.asks <+: calls start size) ∧
        ∀ {reach limit : Nat} {content : ByteArray}, Holds reach limit r content → start ≤ reach →
          windowSize ≤ limit →
          Ends (prove token size) r
            (fun window _ => window.offset = start ∧
              window.bytes = content.extract start (min (start + 8) size) ∧
              Base64.decode? window.encoded = some window.bytes ∧
              window.encoded.length = 4 * ((window.bytes.size + 2) / 3))
            (fun _ _ => False) := by
  obtain ⟨start, hstart⟩ := exists_start h
  obtain ⟨hword, hlt⟩ := start?_lt hstart
  refine ⟨start, offset_natCast hstart, hstart, ?_, hword, ?_, ?_⟩
  · rintro rfl
    exact (Option.some.inj hstart).symm
  · exact fun hpos => ⟨hlt hpos, windowLength_bounds hstart hpos⟩
  · intro ρ _ r
    refine ⟨prove_asks hstart r, fun hr hreach hlimit => ?_⟩
    refine (hr.prove_ends hstart hreach hlimit).mono ?_ fun _ _ h => h
    rintro window _ ⟨hoffset, hbytes⟩
    exact ⟨hoffset, hbytes, Base64.decode?_encode _, Base64.length_encode _⟩

/-- Under a size of three the window starts at one, and of two bytes it shows the last. -/
theorem prove_window_last :
    (Text.utf8? "another").isSome = true ∧ start? "another" 3 = some 1 ∧
      Ends (prove "another" 3) (Cursor.ofBytes ⟨#[5, 6]⟩)
        (fun window _ => window.offset = 1 ∧ window.bytes = ⟨#[6]⟩ ∧ window.encoded = "Bg==")
        (fun _ _ => False) := by
  have hbytes : (Text.utf8? "another").isSome = true := by decide +kernel
  have hone : start? "another" 3 = some 1 := by decide +kernel
  obtain ⟨start, -, hstart, -, -, -, hall⟩ := @prove_window "another" 3 (.inr hbytes)
  cases hone.symm.trans hstart
  have hends := (hall (Cursor.ofBytes ⟨#[5, 6]⟩)).2 (Cursor.holds _) (by decide) (by decide)
  refine ⟨hbytes, hone, hends.mono ?_ fun _ _ h => h⟩
  rintro window _ ⟨hoffset, hwindow, -, -⟩
  have hlast : window.bytes = ⟨#[6]⟩ := hwindow.trans (by decide)
  exact ⟨hoffset, hlast, by rw [Window.encoded, hlast]; decide⟩

/-- The limits of files that are counted in blocks of four kibibytes. -/
def blocky : FileLimits :=
  ⟨pow2 44 - pow2 12, pow2 35, by decide, by decide, by decide⟩

/-- A token that is half of a pair starts no window, and in a spill no window starts further than
its file reaches. -/
theorem prove_nowhere :
    (¬∃ start : Int, offset (String.ofList (Text.ofCodes [0xd800])) 1 = .ok start ∧ 0 ≤ start ∧
      start < 1) ∧
    ((Spill.new { Rehearsal.roomy with limits := blocky } none).written .empty).Stores blocky
      .empty ∧
    Ends (prove "token" Cursor.wordLimit)
      ((Spill.new { Rehearsal.roomy with limits := blocky } none).written .empty)
      (fun _ _ => False) (fun e _ => Spill.Unreached e) := by
  refine ⟨?_, ⟨_, rfl, rfl, Sparse.holds_solid .empty⟩, ?_⟩
  · have hnone : Text.utf8? (String.ofList (Text.ofCodes [0xd800])) = none := by decide
    rintro ⟨start, hstart, -, -⟩
    rw [offset, if_neg (by decide), if_neg (by decide), hnone] at hstart
    cases hstart
  · have hfar : start? "token" Cursor.wordLimit = some 1486343603936278249 := by decide +kernel
    unfold prove
    simp only [offset_natCast hfar]
    rw [if_neg (by decide), ends_bind]
    exact ends_error (a := Spill.seek (1486343603936278249 : Nat)) rfl (.inr ⟨_, rfl⟩)

end Possession

end RapidUpload
