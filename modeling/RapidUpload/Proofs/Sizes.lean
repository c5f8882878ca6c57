import RapidUpload.Number.Size

/-!
# Sizes that can be told of

Every size of less than a thousand bits has a text, in digits, in kilobytes and in megabytes.
-/

namespace RapidUpload

namespace Integer

/-- An integer has a text where its digits are few enough. -/
theorem short_iff {n : Int} : Short n ↔ n.natAbs < pow10 digitLimit := by
  have hdigits : ∀ {k : Nat}, 0 < k →
      ((Nat.toDigits 10 n.natAbs).length ≤ k ↔ n.natAbs < pow10 k) := fun hk =>
    Nat.length_toDigits_le_iff (by decide) hk
  exact hdigits (by decide)

theorem pow10_le_pow10 {m n : Nat} (h : m ≤ n) : pow10 m ≤ pow10 n :=
  Nat.pow_le_pow_right (by decide) h

theorem not_short_pow10 {k : Nat} (hk : digitLimit ≤ k) : ¬Short (pow10 k) := by
  rw [short_iff, Int.natAbs_natCast, Nat.not_lt]
  exact pow10_le_pow10 hk

theorem short_of_natAbs_lt {n : Int} {k : Nat} (hn : n.natAbs < pow2 k) (hk : k ≤ digitLimit) :
    Short n :=
  short_iff.mpr <| calc n.natAbs < pow2 k := hn
    _ ≤ pow10 k := Nat.pow_le_pow_left (by decide) k
    _ ≤ pow10 digitLimit := pow10_le_pow10 hk

theorem short_of_lt {n k : Nat} (hn : n < pow2 k) (hk : k ≤ digitLimit) : Short n :=
  short_of_natAbs_lt hn hk

end Integer

theorem pow2_le_pow2 {m n : Nat} (h : m ≤ n) : pow2 m ≤ pow2 n :=
  Nat.pow_le_pow_right (by decide) h

theorem roundHalfEven_le (num den : Nat) : roundHalfEven num den ≤ num / den + 1 := by
  unfold roundHalfEven
  dsimp only
  split <;> omega

namespace Double

/-- In its units a quotient has at most fifty-four bits before the point. -/
theorem inUnits_lt {num den : Nat} (hd : den ≠ 0) {q : Int}
    (hq : (num.log2 : Int) - den.log2 - 53 ≤ q) :
    (inUnits num den q).1 / (inUnits num den q).2 < pow2 54 := by
  have hnum : num < 2 ^ (num.log2 + 1) := Nat.lt_log2_self
  have hden : 2 ^ den.log2 ≤ den := Nat.log2_self_le hd
  unfold inUnits
  split
  · rename_i h
    refine Nat.div_lt_of_lt_mul ?_
    calc num < 2 ^ (num.log2 + 1) := hnum
      _ ≤ 2 ^ (den.log2 + q.toNat + 54) := Nat.pow_le_pow_right (by decide) (by omega)
      _ = 2 ^ den.log2 * 2 ^ q.toNat * 2 ^ 54 := by rw [Nat.pow_add, Nat.pow_add]
      _ ≤ den * pow2 q.toNat * pow2 54 := Nat.mul_le_mul_right _ (Nat.mul_le_mul_right _ hden)
  · rename_i h
    refine Nat.div_lt_of_lt_mul ?_
    calc num * pow2 (-q).toNat < 2 ^ (num.log2 + 1) * 2 ^ (-q).toNat :=
          Nat.mul_lt_mul_of_pos_right hnum (Nat.two_pow_pos _)
      _ = 2 ^ (num.log2 + 1 + (-q).toNat) := (Nat.pow_add _ _ _).symm
      _ ≤ 2 ^ (den.log2 + 54) := Nat.pow_le_pow_right (by decide) (by omega)
      _ = 2 ^ den.log2 * 2 ^ 54 := Nat.pow_add _ _ _
      _ ≤ den * pow2 54 := Nat.mul_le_mul_right _ hden

theorem unitOf_ge (num den : Nat) : (num.log2 : Int) - den.log2 - 53 ≤ unitOf num den := by
  unfold unitOf
  dsimp only
  split <;> omega

theorem unitOf_le (num den : Nat) : unitOf num den ≤ max ((num.log2 : Int) - 52) (-1074) := by
  unfold unitOf
  dsimp only
  split <;> omega

/-- A quotient of less than a thousand bits is nearest to a finite number. -/
theorem isInfinite_ofRatio {num den k : Nat} (hn : num < pow2 k) (hk : k ≤ 1000) (hd : den ≠ 0) :
    (ofRatio false num den).isInfinite = false := by
  have small : ∀ bits, bits ≤ 2026 * pow2 52 → (ofBits false bits).isInfinite = false := by
    intro bits hb
    have hbits : (UInt64.ofNat bits).toNat = bits :=
      UInt64.toNat_ofNat_of_lt' (Nat.lt_of_le_of_lt hb (by decide))
    have hfield : bits / pow2 52 ≤ 2026 := Nat.div_le_of_le_mul (Nat.mul_comm _ _ ▸ hb)
    have hmod : bits / pow2 52 % pow2 11 = bits / pow2 52 :=
      Nat.mod_eq_of_lt (Nat.lt_of_le_of_lt hfield (by decide))
    rw [isInfinite, exponentField, ofBits, if_neg Bool.false_ne_true, hbits, hmod,
      beq_false_of_ne (by omega), Bool.false_and]
  unfold ofRatio
  split
  · exact small 0 (Nat.zero_le _)
  · rename_i h0
    refine small _ (Nat.le_trans (Nat.min_le_right _ _) ?_)
    have hlog : num.log2 < k := (Nat.log2_lt h0).mpr hn
    have hq := unitOf_le num den
    have hround : roundHalfEven _ _ ≤ pow2 54 := Nat.le_trans (roundHalfEven_le _ _)
      (inUnits_lt hd (unitOf_ge num den))
    have hexp : (unitOf num den + 1074).toNat ≤ 2022 := by omega
    calc (unitOf num den + 1074).toNat * pow2 52 + roundHalfEven _ _
        ≤ 2022 * pow2 52 + pow2 54 := Nat.add_le_add (Nat.mul_le_mul_right _ hexp) hround
      _ = 2026 * pow2 52 := by decide

/-- The largest magnitude has a little more than a thousand bits. -/
theorem magnitude_lt (x : Double) : x.magnitude.1 < pow2 1025 := by
  have hfraction : x.fraction < pow2 52 := Nat.mod_lt _ (by decide)
  have hfield : x.exponentField < 2048 := Nat.mod_lt _ (by decide)
  have hparts : x.parts.1 < pow2 53 ∧ x.parts.2 ≤ 972 := by
    have hdouble : pow2 53 = pow2 52 + pow2 52 := by decide
    unfold parts
    split
    · exact ⟨by dsimp only; omega, by dsimp only; omega⟩
    · exact ⟨by dsimp only; omega, by dsimp only; omega⟩
  unfold magnitude
  dsimp only
  split
  · calc x.parts.1 * pow2 x.parts.2.toNat < pow2 53 * pow2 x.parts.2.toNat :=
          Nat.mul_lt_mul_of_pos_right hparts.1 (Nat.two_pow_pos _)
      _ = pow2 (53 + x.parts.2.toNat) := (Nat.pow_add 2 53 _).symm
      _ ≤ pow2 1025 := pow2_le_pow2 (by omega)
  · exact Nat.lt_of_lt_of_le hparts.1 (pow2_le_pow2 (by decide))

theorem magnitude_pos (x : Double) : 0 < x.magnitude.2 := by
  unfold magnitude
  dsimp only
  split
  · exact Nat.one_pos
  · exact Nat.two_pow_pos _

/-- The whole part of a number has a text. -/
theorem short_truncate (x : Double) : Integer.Short x.truncate := by
  refine Integer.short_of_natAbs_lt (k := 1025) ?_ (by decide)
  have hle : x.truncate.natAbs ≤ x.magnitude.1 := by
    have hdiv := Nat.div_le_self x.magnitude.1 x.magnitude.2
    unfold truncate
    dsimp only
    split
    · rw [Int.natAbs_neg, Int.natAbs_natCast]
      exact hdiv
    · rw [Int.natAbs_natCast]
      exact hdiv
  exact Nat.lt_of_le_of_lt hle x.magnitude_lt

/-- An integer that equals a number has a text. -/
theorem short_of_equalsInt {x : Double} {n : Int} (h : x.equalsInt n = true) :
    Integer.Short n := by
  refine Integer.short_of_natAbs_lt (k := 1025) ?_ (by decide)
  obtain ⟨-, heq⟩ := Bool.and_eq_true_iff.mp h
  have hprod : x.magnitude.1 = n.natAbs * x.magnitude.2 := by
    generalize x.magnitude = m at heq ⊢
    have habs := congrArg Int.natAbs (eq_of_beq heq)
    rw [Int.natAbs_mul, Int.natAbs_natCast] at habs
    rw [← habs]
    split
    · rw [Int.natAbs_neg, Int.natAbs_natCast]
    · rw [Int.natAbs_natCast]
  calc n.natAbs ≤ n.natAbs * x.magnitude.2 := Nat.le_mul_of_pos_right _ x.magnitude_pos
    _ = x.magnitude.1 := hprod.symm
    _ < pow2 1025 := x.magnitude_lt

end Double

namespace Size

/-- A size of less than a thousand bits has a text. -/
theorem inUnit_ok {unit places bytes k : Nat} (hu : unit ≠ 0) (hb : bytes < pow2 k)
    (hk : k ≤ 1000) (e : Fault) : inUnit unit places bytes ≠ .error e := by
  unfold inUnit
  dsimp only
  rw [Double.isInfinite_ofRatio hb hk hu, if_neg Bool.false_ne_true]
  exact fun h => nomatch h

end Size

end RapidUpload
