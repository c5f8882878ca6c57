import RapidUpload.Bytes.Sparse
import RapidUpload.Proofs.Bytes

/-!
# Bytes written over others

A file may be written anywhere, also past its end, and then reads as its bytes with the new ones
over them and zeros in between.  Which byte stands where says it all: `ByteArray.octet` for bytes in
memory, `Sparse.byte` for a file in pieces.

* `ByteArray.splice b p new`: the bytes `b` with `new` over them from `p` on.
* `ByteArray.splice_eq_iff`: when nothing but the new bytes is left.
* `Sparse.Is s content`: the file has the bytes of the content, and zeros past its end.
* `Sparse.is_write`: writing splices.
-/

/-! ### Bytes in memory -/

namespace ByteArray

theorem octet_eq (b : ByteArray) (i : Nat) : b.octet i = (b.data.toList[i]?).getD 0 := by
  unfold octet
  by_cases h : i < b.size
  · rw [dif_pos h, List.getElem?_eq_getElem h]
    rfl
  · rw [dif_neg h, List.getElem?_eq_none (Nat.not_lt.mp h)]
    rfl

theorem octet_of_size_le {b : ByteArray} {i : Nat} (h : b.size ≤ i) : b.octet i = 0 :=
  dif_neg (Nat.not_lt.mpr h)

/-- Bytes are the same where they are as many and each is. -/
theorem eq_of_octet {a b : ByteArray} (hs : a.size = b.size) (h : ∀ i, a.octet i = b.octet i) :
    a = b := by
  refine ByteArray.ext_getElem hs fun i ha hb => ?_
  have := h i
  rwa [octet, octet, dif_pos ha, dif_pos hb] at this

theorem octet_append (a b : ByteArray) (i : Nat) :
    (a ++ b).octet i = if i < a.size then a.octet i else b.octet (i - a.size) := by
  simp only [octet_eq, toList_append, List.getElem?_append, length_toList]
  split <;> rfl

theorem octet_since (b : ByteArray) (p i : Nat) : (b.since p).octet i = b.octet (p + i) := by
  rw [octet_eq, octet_eq, toList_since, List.getElem?_drop]

theorem octet_window (b : ByteArray) (p n i : Nat) :
    (b.window p n).octet i = if i < n then b.octet (p + i) else 0 := by
  rw [octet_eq, octet_eq, toList_window, List.getElem?_take, List.getElem?_drop]
  split <;> rfl

theorem octet_extract (b : ByteArray) (p q i : Nat) :
    (b.extract p q).octet i = if i < q - p then b.octet (p + i) else 0 := by
  rw [octet_eq, octet_eq, data_extract, Array.toList_extract, List.extract_eq_take_drop,
    List.getElem?_take, List.getElem?_drop]
  split <;> rfl

theorem octet_replicate_zero (n i : Nat) : (replicate n 0).octet i = 0 := by
  rw [octet_eq, replicate, Array.toList_replicate, List.getElem?_replicate]
  split <;> rfl

theorem size_replicate (n : Nat) (x : UInt8) : (replicate n x).size = n := Array.size_replicate

/-- Bytes with others over them from a position on; zeros fill what lies between. -/
def splice (b : ByteArray) (p : Nat) (new : ByteArray) : ByteArray :=
  if new.size = 0 then b
  else b.window 0 p ++ replicate (p - b.size) 0 ++ new ++ b.since (p + new.size)

theorem splice_empty (b : ByteArray) (p : Nat) : b.splice p .empty = b := if_pos rfl

theorem size_splice (b : ByteArray) (p : Nat) (new : ByteArray) :
    (b.splice p new).size = if new.size = 0 then b.size else max b.size (p + new.size) := by
  unfold splice
  split
  · rfl
  · simp only [size_append, size_window, size_replicate, size_since]
    omega

theorem octet_splice (b : ByteArray) (p : Nat) (new : ByteArray) (i : Nat) :
    (b.splice p new).octet i =
      if p ≤ i ∧ i < p + new.size then new.octet (i - p) else b.octet i := by
  unfold splice
  by_cases hn : new.size = 0
  · rw [if_pos hn, if_neg (by omega)]
  · have hfront : (b.window 0 p ++ replicate (p - b.size) 0).size = p := by
      rw [size_append, size_window, size_replicate]
      omega
    rw [if_neg hn, octet_append, octet_append, size_append, hfront]
    by_cases hp : i < p
    · rw [if_pos (by omega), if_pos hp, if_neg (by omega), octet_append, octet_window,
        octet_replicate_zero, if_pos hp, Nat.zero_add]
      split
      · rfl
      · rw [octet_of_size_le]
        rename_i h
        rw [size_window] at h
        omega
    · by_cases hq : i < p + new.size
      · rw [if_pos hq, if_neg hp, if_pos ⟨Nat.not_lt.mp hp, hq⟩]
      · rw [if_neg hq, if_neg (by omega), octet_since]
        congr 1
        omega

/-- Bytes spliced one after the other are spliced together. -/
theorem splice_splice (b : ByteArray) (p : Nat) (new more : ByteArray) :
    (b.splice p new).splice (p + new.size) more = b.splice p (new ++ more) := by
  refine eq_of_octet ?_ fun i => ?_
  · simp only [size_splice, size_append]
    split <;> split <;> split <;> omega
  · simp only [octet_splice, octet_append, size_append]
    by_cases hm : p + new.size ≤ i ∧ i < p + new.size + more.size
    · rw [if_pos hm, if_pos (by omega), if_neg (by omega)]
      congr 1
      omega
    · rw [if_neg hm]
      by_cases hn : p ≤ i ∧ i < p + new.size
      · rw [if_pos hn, if_pos (by omega), if_pos (by omega)]
      · rw [if_neg hn, if_neg (by omega)]

/-- Nothing but the new bytes is left where they start at the front and reach to the end, or where
there are none at all. -/
theorem splice_eq_iff (b : ByteArray) (p : Nat) (new : ByteArray) :
    b.splice p new = new ↔ b.size ≤ new.size ∧ (p = 0 ∨ new.size = 0) := by
  constructor
  · intro h
    have hs := congrArg size h
    rw [size_splice] at hs
    split at hs <;> omega
  · rintro ⟨hle, hp⟩
    refine eq_of_octet ?_ fun i => ?_
    · rw [size_splice]
      split <;> omega
    · rw [octet_splice]
      by_cases hi : p ≤ i ∧ i < p + new.size
      · rw [if_pos hi]
        congr 1
        omega
      · rw [if_neg hi, octet_of_size_le (by omega), octet_of_size_le (by omega)]

end ByteArray

/-! ### Bytes in pieces -/

namespace RapidUpload.Sparse

/-- The byte at a position of the pieces: that of the first one that reaches it. -/
def byteOf : List (Nat × ByteArray) → Nat → UInt8
  | [], _ => 0
  | (start, bytes) :: older, i =>
    if start ≤ i ∧ i < start + bytes.size then bytes.octet (i - start) else byteOf older i

/-- The byte at a position of a file. -/
def byte (s : Sparse) (i : Nat) : UInt8 := byteOf s.pieces i

theorem octet_paint (p : Nat) (w : ByteArray) (start : Nat) (bytes : ByteArray) (j : Nat) :
    (paint p w (start, bytes)).octet j =
      if j < w.size ∧ start ≤ p + j ∧ p + j < start + bytes.size then bytes.octet (p + j - start)
      else w.octet j := by
  unfold paint
  dsimp only
  by_cases hlt : max start p < min (start + bytes.size) (p + w.size)
  · rw [if_pos hlt]
    simp only [ByteArray.octet_append, ByteArray.octet_extract, ByteArray.octet_since,
      ByteArray.size_append, ByteArray.size_extract]
    by_cases hj : j < max start p - p
    · rw [if_pos (by omega), if_pos (by omega), if_pos (by omega), if_neg (by omega), Nat.zero_add]
    · by_cases hk : j < min (start + bytes.size) (p + w.size) - p
      · rw [if_pos (by omega), if_neg (by omega), if_pos (by omega), if_pos (by omega)]
        congr 1
        omega
      · rw [if_neg (by omega), if_neg (by omega)]
        congr 1
        omega
  · rw [if_neg hlt, if_neg (by omega)]

/-- Each byte of a window is the one that stands there. -/
theorem octet_window (s : Sparse) (p n j : Nat) :
    (s.window p n).octet j = if j < min n (s.size - p) then s.byte (p + j) else 0 := by
  unfold window byte
  -- on the pieces: the one that is painted last comes first
  generalize s.pieces = pieces
  induction pieces with
  | nil =>
    simp only [List.reverse_nil, List.foldl_nil, ByteArray.octet_replicate_zero, byteOf, ite_self]
  | cons piece older ih =>
    obtain ⟨start, bytes⟩ := piece
    rw [List.reverse_cons, List.foldl_append, List.foldl_cons, List.foldl_nil, octet_paint, ih,
      size_paintAll, ByteArray.size_replicate, byteOf]
    by_cases hj : j < min n (s.size - p)
    · simp only [hj, true_and, if_true]
    · simp only [hj, false_and, if_false]

theorem octet_overwrite {bytes : ByteArray} {k : Nat} (hk : k ≤ bytes.size) (new : ByteArray)
    (j : Nat) : (overwrite bytes k new).octet j = (bytes.splice k new).octet j := by
  have hext : bytes.extract 0 k = bytes.window 0 k := by
    rw [ByteArray.window_eq_extract, Nat.zero_add]
  have hzeros : ByteArray.replicate (k - bytes.size) 0 = .empty := by
    rw [Nat.sub_eq_zero_of_le hk]
    rfl
  rw [ByteArray.octet_splice]
  unfold overwrite
  by_cases he : k = bytes.size
  · rw [if_pos he, ByteArray.octet_append]
    by_cases hj : j < bytes.size
    · rw [if_pos hj, if_neg (by omega)]
    · rw [if_neg hj]
      by_cases hn : j < k + new.size
      · rw [if_pos (by omega), he]
      · rw [if_neg (by omega), ByteArray.octet_of_size_le (by omega),
          ByteArray.octet_of_size_le (by omega)]
  · rw [if_neg he, ByteArray.octet_append, ByteArray.octet_append, hext, ByteArray.octet_window,
      ByteArray.octet_since, ByteArray.size_append, ByteArray.size_window]
    by_cases hj : j < k
    · rw [if_pos (by omega), if_pos (by omega), if_pos hj, if_neg (by omega), Nat.zero_add]
    · by_cases hn : j < k + new.size
      · rw [if_pos (by omega), if_neg (by omega), if_pos (by omega)]
        congr 1
        omega
      · rw [if_neg (by omega), if_neg (by omega)]
        congr 1
        omega

theorem size_overwrite {bytes : ByteArray} {k : Nat} (hk : k ≤ bytes.size) (new : ByteArray) :
    (overwrite bytes k new).size = max bytes.size (k + new.size) := by
  unfold overwrite
  split
  · rw [ByteArray.size_append]
    omega
  · simp only [ByteArray.size_append, ByteArray.size_extract, ByteArray.size_since]
    omega

theorem size_write (s : Sparse) (p : Nat) (new : ByteArray) :
    (s.write p new).size = max s.size (p + new.size) := by
  obtain ⟨size, pieces⟩ := s
  cases pieces with
  | nil => rfl
  | cons piece older =>
    unfold write
    dsimp only
    split <;> rfl

/-- **Writing** puts the new bytes where they are written, and leaves all others. -/
theorem byte_write (s : Sparse) (p : Nat) (new : ByteArray) (i : Nat) :
    (s.write p new).byte i = if p ≤ i ∧ i < p + new.size then new.octet (i - p) else s.byte i := by
  obtain ⟨size, pieces⟩ := s
  cases pieces with
  | nil => rfl
  | cons piece older =>
    obtain ⟨start, bytes⟩ := piece
    unfold write byte
    dsimp only
    by_cases h : start ≤ p ∧ p ≤ start + bytes.size
    · have hk : p - start ≤ bytes.size := by omega
      rw [if_pos h]
      simp only [byteOf, octet_overwrite hk, size_overwrite hk, ByteArray.octet_splice]
      by_cases hi : p ≤ i ∧ i < p + new.size
      · rw [if_pos hi, if_pos (by omega), if_pos (by omega)]
        congr 1
        omega
      · rw [if_neg hi]
        by_cases hb : start ≤ i ∧ i < start + bytes.size
        · rw [if_pos hb, if_pos (by omega), if_neg (by omega)]
        · rw [if_neg hb, if_neg (by omega)]
    · rw [if_neg h]
      rfl

/-- The file has the bytes of the content, and nothing but zeros past its end. -/
structure Is (s : Sparse) (content : ByteArray) : Prop where
  size : s.size = content.size
  byte : ∀ i, s.byte i = content.octet i

/-- Writing some bytes splices them. -/
theorem Is.write {s : Sparse} {content : ByteArray} (h : s.Is content) (p : Nat) {new : ByteArray}
    (hn : new.size ≠ 0) : (s.write p new).Is (content.splice p new) where
  size := by rw [size_write, ByteArray.size_splice, if_neg hn, h.size]
  byte i := by rw [byte_write, ByteArray.octet_splice, h.byte]

/-- Such a file reads as the content everywhere. -/
theorem Is.window_eq {s : Sparse} {content : ByteArray} (h : s.Is content) (p n : Nat) :
    s.window p n = content.window p n := by
  refine ByteArray.eq_of_octet ?_ fun j => ?_
  · rw [size_window, ByteArray.size_window, h.size]
  · rw [octet_window, ByteArray.octet_window, h.byte, h.size]
    by_cases hn : j < n
    · by_cases hs : j < content.size - p
      · rw [if_pos (by omega), if_pos hn]
      · rw [if_neg (by omega), if_pos hn, ByteArray.octet_of_size_le (by omega)]
    · rw [if_neg (by omega), if_neg hn]

end RapidUpload.Sparse
