import RapidUpload.Json.Parser
import RapidUpload.Json.Printer

/-!
# Reading quoted texts back

A text on the wire is spelled code by code: a character as itself, a short escape, a code unit by
its number, or a pair of units.  The reader takes one piece, or the two of a pair, for each code,
and joins them to the characters that keep it.

* `Text.Whole`: a text of characters alone, without halves of pairs.
* `Json.pieces_asciiCode`: the pieces that the spelling of a code is read as.
* `Json.joinPieces_codePieces`: and what they are joined to.
* `Json.readText_spelled`: a whole text is read back as it was written.
-/

namespace RapidUpload

/-! ### Whole texts -/

namespace Text

/-- The text holds characters alone. -/
def Whole (t : String) : Prop := ∃ s : String, t = ofString s

theorem toNat_valid (c : Char) : c.toNat.isValidChar := c.valid

theorem isValidChar_lt {n : Nat} (h : n.isValidChar) : n < 0x110000 := by
  simp only [Nat.isValidChar] at h
  omega

/-- A whole text keeps the codes of characters, and is made of them. -/
theorem Whole.spelled {t : String} (h : Whole t) :
    (∀ n ∈ codes t.toList, n.isValidChar) ∧ String.ofList (ofCodes (codes t.toList)) = t := by
  obtain ⟨s, rfl⟩ := h
  have hvalid : ∀ n ∈ s.toList.map Char.toNat, n.isValidChar := by
    intro n hn
    obtain ⟨c, -, rfl⟩ := List.mem_map.mp hn
    exact toNat_valid c
  have hcodes : codes (ofString s).toList = s.toList.map Char.toNat := by
    rw [ofString, String.toList_ofList, codes_ofCodes fun n hn => isValidChar_lt (hvalid n hn)]
  rw [hcodes]
  exact ⟨hvalid, rfl⟩

/-- Below the last plane's halves a character is kept as itself. -/
theorem ofCode_of_lt {n : Nat} (hv : n.isValidChar) (h : n < 0x10d800) :
    ofCode n = [Char.ofNat n] := by
  have hm : isMarked n = false := by
    have hne := mt (isMarked_iff (n := n)).mp (by omega)
    simpa using hne
  simp [ofCode, not_isHalf hv, hm]

end Text

/-! ### Code units -/

namespace Hex

theorem value?_digit {n : Nat} (h : n < 16) : value? (digit n) = some n := by
  have hall : ∀ n ∈ List.range 16, value? (digit n) = some n := by decide
  exact hall n (List.mem_range.mpr h)

theorem padded_four (n : Nat) : padded 4 n = [digit (n / 16 / 16 / 16 % 16),
    digit (n / 16 / 16 % 16), digit (n / 16 % 16), digit (n % 16)] := rfl

end Hex

namespace Json

theorem unitOf?_padded {n : Nat} (h : n < 0x10000) : unitOf? (Hex.digit (n / 16 / 16 / 16 % 16))
    (Hex.digit (n / 16 / 16 % 16)) (Hex.digit (n / 16 % 16)) (Hex.digit (n % 16)) = some n := by
  rw [unitOf?, Hex.value?_digit (Nat.mod_lt _ (by decide)),
    Hex.value?_digit (Nat.mod_lt _ (by decide)), Hex.value?_digit (Nat.mod_lt _ (by decide)),
    Hex.value?_digit (Nat.mod_lt _ (by decide))]
  simp only [Option.bind_eq_bind, Option.bind_some, Option.pure_def, Option.some.injEq]
  omega

/-! ### Pieces -/

/-- Some pieces in front of those of the rest. -/
def ahead (ps : List Piece) (r : Option (List Piece × List Char)) :
    Option (List Piece × List Char) :=
  r.map fun p => (ps ++ p.1, p.2)

theorem ahead_ahead (ps qs : List Piece) (r : Option (List Piece × List Char)) :
    ahead ps (ahead qs r) = ahead (ps ++ qs) r := by
  cases r <;> simp [ahead]

theorem pieces_unit {n : Nat} (h : n < 0x10000) (rest : List Char) :
    pieces (unit n ++ rest) = ahead [.unit n] (pieces rest) := by
  rw [unit, Hex.padded_four]
  simp only [List.cons_append, List.nil_append, pieces, unitOf?_padded h]
  cases pieces rest <;> rfl

theorem pieces_escape {e c : Char} (he : e ≠ 'u') (h : unescape? e = some c) (rest : List Char) :
    pieces ('\\' :: e :: rest) = ahead [.char c] (pieces rest) := by
  rw [pieces]
  · simp only [h]
    cases pieces rest <;> rfl
  · exact fun _ _ _ _ _ hu _ => he hu

theorem pieces_char {c : Char} (hc : 32 ≤ c.toNat) (hquote : c ≠ '"') (hslash : c ≠ '\\')
    (rest : List Char) : pieces (c :: rest) = ahead [.char c] (pieces rest) := by
  rw [pieces]
  · rw [if_neg (by simp [hslash]; omega)]
    cases pieces rest <;> rfl
  · exact hquote
  · exact fun _ _ _ _ _ h _ => hslash h
  · exact fun _ _ h _ => hslash h

/-- A short escape is a letter that stands for its character. -/
theorem shortEscape?_some {c : Char} {cs : List Char} (h : shortEscape? c = some cs) :
    c.toNat < 127 ∧ ∃ e, cs = ['\\', e] ∧ e ≠ 'u' ∧ unescape? e = some c := by
  have letter : ∀ e, e ≠ 'u' → unescape? e = some c → c.toNat < 127 → some ['\\', e] = some cs →
      c.toNat < 127 ∧ ∃ e, cs = ['\\', e] ∧ e ≠ 'u' ∧ unescape? e = some c :=
    fun e he hc hlt h => ⟨hlt, e, (Option.some.inj h).symm, he, hc⟩
  have control : ∀ {n : Nat}, c.toNat = n → c = Char.ofNat n := fun hc => by
    rw [← hc, Char.ofNat_toNat]
  unfold shortEscape? at h
  split at h
  · rename_i hc
    exact letter '"' (by decide) (by rw [hc]; rfl) (hc ▸ by decide) h
  split at h
  · rename_i hc
    exact letter '\\' (by decide) (by rw [hc]; rfl) (hc ▸ by decide) h
  split at h
  · rename_i hc
    exact letter 'n' (by decide) (hc ▸ rfl) (hc ▸ by decide) h
  split at h
  · rename_i hc
    exact letter 'r' (by decide) (hc ▸ rfl) (hc ▸ by decide) h
  split at h
  · rename_i hc
    exact letter 't' (by decide) (hc ▸ rfl) (hc ▸ by decide) h
  split at h
  · rename_i hc
    exact letter 'b' (by decide) (control hc ▸ rfl) (by omega) h
  split at h
  · rename_i hc
    exact letter 'f' (by decide) (control hc ▸ rfl) (by omega) h
  · cases h

/-- A character without one is no quote and no escape. -/
theorem shortEscape?_none {c : Char} (h : shortEscape? c = none) : c ≠ '"' ∧ c ≠ '\\' := by
  constructor
  · rintro rfl
    cases h
  · rintro rfl
    cases h

/-- What the spelling of a code is read as. -/
def codePieces (n : Nat) : List Piece :=
  match shortEscape? (Char.ofNat n) with
  | some _ => [.char (Char.ofNat n)]
  | none =>
    if 32 ≤ n ∧ n ≤ 126 then [.char (Char.ofNat n)]
    else if n < 0x10000 then [.unit n]
    else [.unit (0xd800 + (n - 0x10000) / 0x400), .unit (0xdc00 + (n - 0x10000) % 0x400)]

/-- **The spelling of a code** is read as its pieces. -/
theorem pieces_asciiCode {n : Nat} (h : n.isValidChar) (rest : List Char) :
    pieces (asciiCode n ++ rest) = ahead (codePieces n) (pieces rest) := by
  have hlt := Text.isValidChar_lt h
  unfold asciiCode codePieces
  cases hs : shortEscape? (Char.ofNat n) with
  | some cs =>
    obtain ⟨-, e, rfl, he, hc⟩ := shortEscape?_some hs
    exact pieces_escape he hc rest
  | none =>
    obtain ⟨hquote, hslash⟩ := shortEscape?_none hs
    dsimp only
    split
    · rename_i hprint
      refine pieces_char ?_ hquote hslash rest
      rw [Text.toNat_ofNat h]
      exact hprint.1
    · unfold units
      split
      · rename_i hn
        exact pieces_unit hn rest
      · rw [List.append_assoc, pieces_unit (by omega), pieces_unit (by omega), ahead_ahead]
        rfl

/-- **The pieces of a code** are joined to the characters that keep it. -/
theorem joinPieces_codePieces {n : Nat} (h : n.isValidChar) (ps : List Piece) :
    joinPieces (codePieces n ++ ps) = Text.ofCode n ++ joinPieces ps := by
  have hlt := Text.isValidChar_lt h
  have plain : n < 127 → joinPieces ([.char (Char.ofNat n)] ++ ps) =
      Text.ofCode n ++ joinPieces ps := fun hn => by
    rw [Text.ofCode_of_lt h (by omega)]
    rfl
  unfold codePieces
  cases hs : shortEscape? (Char.ofNat n) with
  | some cs =>
    have hn := (shortEscape?_some hs).1
    rw [Text.toNat_ofNat h] at hn
    exact plain hn
  | none =>
    dsimp only
    split
    · exact plain (by omega)
    · split
      · -- a unit that is no half is not joined to what follows
        have hhigh : Text.isHigh n = false := by
          have hhalf := Text.not_isHalf h
          rw [Text.isHalf, Bool.or_eq_false_iff] at hhalf
          exact hhalf.1
        cases ps with
        | nil => rfl
        | cons p ps =>
          cases p with
          | char c => rfl
          | unit m => simp [joinPieces, hhigh]
      · have hhigh : Text.isHigh (0xd800 + (n - 0x10000) / 0x400) = true := by
          simp only [Text.isHigh, Bool.and_eq_true, decide_eq_true_eq]
          omega
        have hlow : Text.isLow (0xdc00 + (n - 0x10000) % 0x400) = true := by
          simp only [Text.isLow, Bool.and_eq_true, decide_eq_true_eq]
          omega
        have hpair : 0x10000 + (0xd800 + (n - 0x10000) / 0x400 - 0xd800) * 0x400 +
            (0xdc00 + (n - 0x10000) % 0x400 - 0xdc00) = n := by omega
        simp only [List.cons_append, List.nil_append, joinPieces, hhigh, hlow, Bool.and_self,
          if_true, hpair]

/-- The spelling of whole texts is read as the pieces of their codes. -/
theorem pieces_spelled {ns : List Nat} (h : ∀ n ∈ ns, n.isValidChar) (rest : List Char) :
    pieces (ns.flatMap asciiCode ++ '"' :: rest) = some (ns.flatMap codePieces, rest) := by
  induction ns with
  | nil => rfl
  | cons n ns ih =>
    obtain ⟨hn, hns⟩ := List.forall_mem_cons.mp h
    rw [List.flatMap_cons, List.append_assoc, pieces_asciiCode hn, ih hns]
    rfl

theorem joinPieces_spelled {ns : List Nat} (h : ∀ n ∈ ns, n.isValidChar) :
    joinPieces (ns.flatMap codePieces) = Text.ofCodes ns := by
  induction ns with
  | nil => rfl
  | cons n ns ih =>
    obtain ⟨hn, hns⟩ := List.forall_mem_cons.mp h
    rw [List.flatMap_cons, joinPieces_codePieces hn, ih hns]
    rfl

/-- **A whole text** is read back as it was written, up to its closing quote. -/
theorem readText_spelled {t : String} (h : Text.Whole t) (rest : List Char) :
    readText ((Text.codes t.toList).flatMap asciiCode ++ '"' :: rest) = .ok (t, rest) := by
  obtain ⟨hvalid, hmade⟩ := h.spelled
  rw [readText, pieces_spelled hvalid]
  dsimp only
  rw [joinPieces_spelled hvalid, hmade]

end Json

end RapidUpload
