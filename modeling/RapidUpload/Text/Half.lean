/-!
# Halves of pairs

A character past U+FFFF is written as a pair of code units, and a text from outside may hold half
of such a pair, which stands for no character.  A half is kept as a character of the last private
plane, `0x100000` past its unit; a character that belongs to that stretch of the plane is kept
behind a mark.

* `Text.ofCodes`, `Text.codes`: the characters that keep a row of codes, and the codes kept.
* `Text.codes_ofCodes`: nothing is lost on the way.
* `Text.utf8?`: the bytes of a text, which a half has none of.
-/

namespace RapidUpload.Text

/-- The first unit of a pair. -/
def isHigh (n : Nat) : Bool := 0xd800 ≤ n && n < 0xdc00

/-- The second unit of a pair. -/
def isLow (n : Nat) : Bool := 0xdc00 ≤ n && n < 0xe000

/-- Half of a pair. -/
def isHalf (n : Nat) : Bool := isHigh n || isLow n

/-- How far a half is kept from its unit. -/
def halfShift : Nat := 0x100000

/-- Stands before a character that would be taken for a half, or for the mark, without it. -/
def mark : Char := Char.ofNat 0x10e000

/-- Is kept behind the mark. -/
def isMarked (n : Nat) : Bool := 0x10d800 ≤ n && n ≤ 0x10e000

/-- The characters that keep a code: the number of a character or the unit of a half. -/
def ofCode (n : Nat) : List Char :=
  if isHalf n then [Char.ofNat (halfShift + n)]
  else if isMarked n then [mark, Char.ofNat n]
  else [Char.ofNat n]

/-- The characters that keep a row of codes. -/
def ofCodes (ns : List Nat) : List Char := ns.flatMap ofCode

/-- The code a character without a mark keeps. -/
def code (c : Char) : Nat :=
  if isHalf (c.toNat - halfShift) then c.toNat - halfShift else c.toNat

/-- The codes that characters keep. -/
def codes : List Char → List Nat
  | [] => []
  | [c] => [code c]
  | c :: d :: rest => if c = mark then d.toNat :: codes rest else code c :: codes (d :: rest)

/-- The text that keeps the characters of a string. -/
def ofString (s : String) : String := String.ofList (ofCodes (s.toList.map Char.toNat))

/-- The text holds half of a pair. -/
def hasHalf (s : String) : Bool := (codes s.toList).any isHalf

/-- The bytes of a text without halves. -/
def utf8? (s : String) : Option ByteArray :=
  if hasHalf s then none
  else some (String.ofList ((codes s.toList).map Char.ofNat)).toUTF8

/-! ### Nothing is lost -/

theorem toNat_ofNat {n : Nat} (h : n.isValidChar) : (Char.ofNat n).toNat = n := by
  rw [Char.ofNat, dif_pos h]
  rfl

theorem isHalf_iff {n : Nat} : isHalf n = true ↔ 0xd800 ≤ n ∧ n < 0xe000 := by
  simp only [isHalf, isHigh, isLow, Bool.or_eq_true, Bool.and_eq_true, decide_eq_true_eq]
  omega

theorem not_isHalf {n : Nat} (h : n.isValidChar) : isHalf n = false := by
  have hne := mt (isHalf_iff (n := n)).mp (by simp only [Nat.isValidChar] at h; omega)
  simpa using hne

theorem isMarked_iff {n : Nat} : isMarked n = true ↔ 0x10d800 ≤ n ∧ n ≤ 0x10e000 := by
  simp only [isMarked, Bool.and_eq_true, decide_eq_true_eq]

theorem toNat_mark : mark.toNat = 0x10e000 := toNat_ofNat (by decide)

/-- A character in front of others keeps its code apart from theirs. -/
theorem codes_cons {c : Char} (h : c.toNat ≠ 0x10e000) (cs : List Char) :
    codes (c :: cs) = code c :: codes cs := by
  have hc : c ≠ mark := fun e => h (e ▸ toNat_mark)
  cases cs with
  | nil => rfl
  | cons d rest => simp [codes, hc]

theorem codes_ofCode {n : Nat} (h : n < 0x110000) (cs : List Char) :
    codes (ofCode n ++ cs) = n :: codes cs := by
  by_cases hh : isHalf n
  · have hb := isHalf_iff.mp hh
    have hn : (Char.ofNat (halfShift + n)).toNat = halfShift + n :=
      toNat_ofNat (Or.inr (by simp only [halfShift]; omega))
    simp only [ofCode, hh, if_true, List.cons_append, List.nil_append]
    rw [codes_cons (by rw [hn, halfShift]; omega), code, hn, Nat.add_sub_cancel_left, if_pos hh]
  · have hb := mt isHalf_iff.mpr hh
    have hv : n.isValidChar := by simp only [Nat.isValidChar]; omega
    have hn := toNat_ofNat hv
    by_cases hm : isMarked n
    · simp [ofCode, hh, hm, codes, hn]
    · have hmb := mt isMarked_iff.mpr hm
      have hs : isHalf (n - halfShift) = false := by
        have := mt (isHalf_iff (n := n - halfShift)).mp (by simp only [halfShift]; omega)
        simpa using this
      simp only [ofCode, hh, hm, if_false, List.cons_append, List.nil_append, Bool.false_eq_true]
      rw [codes_cons (by rw [hn]; omega), code, hn, hs]
      simp

/-- Texts keep every row of codes. -/
theorem codes_ofCodes {ns : List Nat} (h : ∀ n ∈ ns, n < 0x110000) : codes (ofCodes ns) = ns := by
  induction ns with
  | nil => rfl
  | cons n rest ih =>
    simp only [List.mem_cons, forall_eq_or_imp] at h
    show codes (ofCode n ++ ofCodes rest) = n :: rest
    rw [codes_ofCode h.1, ih h.2]

end RapidUpload.Text
