import RapidUpload.Digest.Basic
import RapidUpload.Proofs.Bytes

/-!
# Digests of chunks

A hasher keeps what the bytes so far come to, whatever chunks they came in.

* `BlockDigest.absorb_append`: whole blocks are compressed one after the other.
* `Hasher.update_update`: two chunks in a row count as one.
* `Hasher.hex_update_new`: a hasher ends in the digest of all bytes.
-/

namespace RapidUpload

variable {σ : Type}

namespace BlockDigest

theorem blockAt_eq_window (bytes : ByteArray) (i : Nat) :
    blockAt bytes i = bytes.window (blockSize * i) blockSize := by
  rw [blockAt, ByteArray.window_eq_extract]

theorem blockAt_append_left {a b : ByteArray} {i : Nat} (h : i < a.size / blockSize) :
    blockAt (a ++ b) i = blockAt a i := by
  have hi : blockSize * i + blockSize ≤ a.size := by
    simp only [blockSize] at h ⊢
    omega
  refine ByteArray.eq_of_toList ?_
  rw [blockAt_eq_window, blockAt_eq_window, ByteArray.toList_window, ByteArray.toList_window,
    ByteArray.toList_append, List.drop_append_of_le_length, List.take_append_of_le_length]
  · rw [List.length_drop, ByteArray.length_toList]
    omega
  · rw [ByteArray.length_toList]
    omega

theorem blockAt_append_right {a b : ByteArray} {m i : Nat} (h : a.size = blockSize * m) :
    blockAt (a ++ b) (m + i) = blockAt b i := by
  rw [blockAt_eq_window, blockAt_eq_window, Nat.mul_add, ← h, ← ByteArray.window_since,
    ByteArray.append_since]

/-- Fewer bytes than a block change nothing. -/
theorem absorb_of_size_lt (D : BlockDigest σ) (s : σ) {bytes : ByteArray}
    (h : bytes.size < blockSize) : D.absorb s bytes = s := by
  rw [absorb, Nat.div_eq_of_lt h, Nat.fold_zero]

/-- **Whole blocks are compressed one after the other.** -/
theorem absorb_append (D : BlockDigest σ) (s : σ) {a b : ByteArray} {m : Nat}
    (h : a.size = blockSize * m) : D.absorb s (a ++ b) = D.absorb (D.absorb s a) b := by
  have hm : a.size / blockSize = m := by
    rw [h, Nat.mul_div_cancel_left m (by decide)]
  have hn : (a ++ b).size / blockSize = m + b.size / blockSize := by
    rw [ByteArray.size_append, h, Nat.mul_add_div (by decide)]
  simp only [absorb, Nat.fold_congr hn, Nat.fold_add, Nat.fold_congr hm]
  have hleft : (fun i (_ : i < m) s => D.compress s (blockAt (a ++ b) i)) =
      fun i _ s => D.compress s (blockAt a i) := by
    funext i hi s
    rw [blockAt_append_left (by omega)]
  simp only [blockAt_append_right h, hleft]

end BlockDigest

namespace Hasher

open BlockDigest

/-- The bytes of a tail and a chunk that fill whole blocks. -/
theorem absorb_whole (D : BlockDigest σ) (s : σ) (bytes : ByteArray) :
    D.absorb s (bytes.window 0 (bytes.size / blockSize * blockSize)) = D.absorb s bytes := by
  have hw : (bytes.window 0 (bytes.size / blockSize * blockSize)).size =
      blockSize * (bytes.size / blockSize) := by
    rw [ByteArray.size_window]
    simp only [blockSize]
    omega
  have hs : (bytes.since (bytes.size / blockSize * blockSize)).size < blockSize := by
    rw [ByteArray.size_since]
    simp only [blockSize]
    omega
  conv => rhs; rw [← ByteArray.window_append_since bytes (bytes.size / blockSize * blockSize)]
  rw [absorb_append D s hw, absorb_of_size_lt D _ hs]

/-- **Two chunks in a row count as one.** -/
theorem update_update (D : BlockDigest σ) (h : Hasher σ) (a b : ByteArray) :
    (h.update D a).update D b = h.update D (a ++ b) := by
  simp only [update, ← ByteArray.append_assoc]
  generalize h.tail ++ a = bytes
  -- the whole blocks of `bytes`, and what stays of it in front of `b`
  have hcut := ByteArray.window_append_since bytes (bytes.size / blockSize * blockSize)
  have hwhole := absorb_whole D h.state bytes
  have hw : (bytes.window 0 (bytes.size / blockSize * blockSize)).size =
      blockSize * (bytes.size / blockSize) := by
    rw [ByteArray.size_window]
    simp only [blockSize]
    omega
  generalize bytes.window 0 (bytes.size / blockSize * blockSize) = w at *
  generalize bytes.since (bytes.size / blockSize * blockSize) = t at *
  have hassoc : bytes ++ b = w ++ (t ++ b) := by rw [← ByteArray.append_assoc, hcut]
  have hsize : (w ++ (t ++ b)).size / blockSize * blockSize =
      w.size + (t ++ b).size / blockSize * blockSize := by
    rw [ByteArray.size_append, hw, Nat.mul_add_div (by decide), Nat.add_mul, Nat.mul_comm]
  rw [hassoc, absorb_append D _ hw, hwhole, hsize, ByteArray.append_since_add, Nat.add_assoc,
    ← ByteArray.size_append]

/-- Nothing waits at the start. -/
theorem tail_new_lt (D : BlockDigest σ) : (new D).tail.size < blockSize :=
  Nat.zero_lt_succ 63

/-- Less than a block waits. -/
theorem tail_update_lt (D : BlockDigest σ) (h : Hasher σ) (chunk : ByteArray) :
    (h.update D chunk).tail.size < blockSize := by
  simp only [update, ByteArray.size_since, blockSize]
  omega

/-- Nothing new changes nothing, as long as less than a block waits. -/
theorem update_empty (D : BlockDigest σ) {h : Hasher σ} (ht : h.tail.size < blockSize) :
    h.update D .empty = h := by
  simp only [update, ByteArray.append_empty]
  rw [absorb_of_size_lt D _ ht, Nat.div_eq_of_lt ht, Nat.zero_mul, ByteArray.since_zero]
  rfl

theorem length_update_new (D : BlockDigest σ) (bytes : ByteArray) :
    ((new D).update D bytes).length = bytes.size :=
  Nat.zero_add _

/-- **Hashing chunk by chunk** comes to the digest of all the bytes. -/
theorem hex_update_new (D : BlockDigest σ) (bytes : ByteArray) :
    ((new D).update D bytes).hex D = D.hex bytes := by
  have hw : (bytes.window 0 (bytes.size / blockSize * blockSize)).size =
      blockSize * (bytes.size / blockSize) := by
    rw [ByteArray.size_window]
    simp only [blockSize]
    omega
  have hcut : bytes ++ D.closing bytes.size =
      bytes.window 0 (bytes.size / blockSize * blockSize) ++
        (bytes.since (bytes.size / blockSize * blockSize) ++ D.closing bytes.size) := by
    rw [← ByteArray.append_assoc, ByteArray.window_append_since]
  simp only [hex, digest, BlockDigest.hex, BlockDigest.digest, update, new, ByteArray.empty_append,
    Nat.zero_add]
  rw [hcut, absorb_append D _ hw, absorb_whole]

end Hasher

end RapidUpload
