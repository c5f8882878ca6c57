import Mathlib.Algebra.GroupWithZero.Nat
import RapidUpload.Digest.Sha1
import RapidUpload.Proofs.Hashing

/-!
# Hashers that are looked at

A hasher may be asked for its length and its digest at any point, and go on with more chunks.  What
it answers is what hashing all the bytes so far at once would give, and no look changes what comes
after it.

* `Hasher.Use`: a chunk that comes in, or a look at the length or the digest.
* `Hasher.run`: uses one after the other, with what the looks see.
* `Hasher.oneShot`: what they see where each digest is made anew of all the bytes.
* `Hasher.run_oneShot`: the two agree, and the hasher left depends on the bytes alone.
-/

namespace ByteArray

theorem size_join (parts : List ByteArray) : (join parts).size = (parts.map size).sum := by
  induction parts with
  | nil => rfl
  | cons b parts ih => rw [join_cons, size_append, ih, List.map_cons, List.sum_cons]

end ByteArray

namespace RapidUpload.Hasher

open BlockDigest

variable {σ : Type}

/-- A use of a hasher: it takes in a chunk, or its length or its digest is looked at. -/
inductive Use where
  | update (chunk : ByteArray)
  | length
  | hex

/-- What a look sees. -/
inductive Sight where
  | length (n : Nat)
  | hex (text : String)

/-- The chunks among the uses. -/
def chunks : List Use → List ByteArray
  | [] => []
  | .update chunk :: uses => chunk :: chunks uses
  | .length :: uses => chunks uses
  | .hex :: uses => chunks uses

/-- Uses one after the other: what the looks see, and the hasher after them. -/
def run (D : BlockDigest σ) (h : Hasher σ) : List Use → List Sight × Hasher σ
  | [] => ([], h)
  | .update chunk :: uses => run D (h.update D chunk) uses
  | .length :: uses => (.length h.length :: (run D h uses).1, (run D h uses).2)
  | .hex :: uses => (.hex (h.hex D) :: (run D h uses).1, (run D h uses).2)

/-- What the looks see where all the bytes are kept and each digest is that of a whole message. -/
def oneShot (D : BlockDigest σ) (bytes : ByteArray) : List Use → List Sight
  | [] => []
  | .update chunk :: uses => oneShot D (bytes ++ chunk) uses
  | .length :: uses => .length bytes.size :: oneShot D bytes uses
  | .hex :: uses => .hex (D.hex bytes) :: oneShot D bytes uses

/-- After any uses a hasher is as if all the chunks had come as one. -/
theorem run_update (D : BlockDigest σ) (uses : List Use) {h : Hasher σ}
    (ht : h.tail.size < blockSize) :
    (run D h uses).2 = h.update D (ByteArray.join (chunks uses)) := by
  induction uses generalizing h with
  | nil => exact (update_empty D ht).symm
  | cons use uses ih =>
    cases use with
    | update chunk =>
      rw [run, ih (tail_update_lt D h chunk), update_update, chunks, ByteArray.join_cons]
    | length => exact ih ht
    | hex => exact ih ht

/-- What the looks see after some bytes is what they see of a whole message that starts so. -/
theorem sights_update_new (D : BlockDigest σ) (uses : List Use) (bytes : ByteArray) :
    (run D ((new D).update D bytes) uses).1 = oneShot D bytes uses := by
  induction uses generalizing bytes with
  | nil => rfl
  | cons use uses ih =>
    cases use with
    | update chunk => rw [run, update_update, ih, oneShot]
    | length => rw [run, ih, length_update_new, oneShot]
    | hex => rw [run, ih, hex_update_new, oneShot]

/-- **Hashing in pieces is hashing at once.**  Whatever chunks come in and wherever the length and
the digest are looked at on the way, each look sees what it would of the bytes so far, hashed at
once; in the end there are the length and the digest of all of them; and any other uses with the
same bytes, in other chunks or with other looks, leave the same hasher. -/
theorem run_oneShot (uses : List Use) :
    (run sha1 (new sha1) uses).1 = oneShot sha1 .empty uses ∧
      (run sha1 (new sha1) uses).2.length = ((chunks uses).map ByteArray.size).sum ∧
      (run sha1 (new sha1) uses).2.hex sha1 = sha1.hex (ByteArray.join (chunks uses)) ∧
      ∀ others, ByteArray.join (chunks others) = ByteArray.join (chunks uses) →
        (run sha1 (new sha1) others).2 = (run sha1 (new sha1) uses).2 := by
  have hend := fun uses => run_update sha1 uses (tail_new_lt sha1)
  refine ⟨?_, ?_, ?_, fun others hsame => ?_⟩
  · have hsights := sights_update_new sha1 uses .empty
    rwa [update_empty sha1 (tail_new_lt sha1)] at hsights
  · rw [hend, length_update_new, ByteArray.size_join]
  · rw [hend, hex_update_new]
  · rw [hend, hend, hsame]

/-- Two bytes in one chunk, or one by one with looks and an empty chunk between them. -/
theorem run_oneShot_between :
    ByteArray.join (chunks [.update ⟨#[1]⟩, .hex, .update .empty, .length, .update ⟨#[2]⟩]) =
        ByteArray.join (chunks [.update ⟨#[1, 2]⟩]) ∧
      (run sha1 (new sha1) [.update ⟨#[1]⟩, .hex, .update .empty, .length, .update ⟨#[2]⟩]).2 =
        (run sha1 (new sha1) [.update ⟨#[1, 2]⟩]).2 := by
  have hsame : ByteArray.join (chunks [.update ⟨#[1]⟩, .hex, .update .empty, .length,
      .update ⟨#[2]⟩]) = ByteArray.join (chunks [.update ⟨#[1, 2]⟩]) := rfl
  exact ⟨hsame, (run_oneShot _).2.2.2 _ hsame⟩

end RapidUpload.Hasher
