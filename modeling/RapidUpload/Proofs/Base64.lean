import RapidUpload.Bytes.Base64
import RapidUpload.Proofs.Bytes

/-!
# Reading base64 back

Six bits make a letter, and four letters hold three bytes.  Padding stands only in the last group,
so no other group is taken for it.

* `Base64.index?_letter`: the letters and their numbers.
* `Base64.decode?_encode`: the bytes of a written text are those it was written for.
* `Base64.length_encode`: a text has four characters for every three bytes begun.
-/

namespace RapidUpload.Base64

theorem index?_letter {n : Nat} (h : n < 64) : index? (letter n) = some n := by
  have hall : ∀ n ∈ List.range 64, index? (letter n) = some n := by decide
  exact hall n (List.mem_range.mpr h)

/-- No letter is taken for padding. -/
theorem letter_ne_pad {n : Nat} (h : n < 64) : letter n ≠ '=' := by
  intro hpad
  have hindex := index?_letter h
  rw [hpad] at hindex
  cases hindex

/-- The first byte of a group comes from its first two letters. -/
theorem first_byte (a b : UInt8) :
    UInt8.ofNat (a.toNat / 4 * 4 + (a.toNat % 4 * 16 + b.toNat / 16) / 16) = a := by
  have hb : b.toNat < 256 := b.toNat_lt_size
  rw [show a.toNat / 4 * 4 + (a.toNat % 4 * 16 + b.toNat / 16) / 16 = a.toNat by omega,
    UInt8.ofNat_toNat]

/-- The second byte comes from its second and its third letter. -/
theorem second_byte (a b c : UInt8) :
    UInt8.ofNat ((a.toNat % 4 * 16 + b.toNat / 16) % 16 * 16 +
      (b.toNat % 16 * 4 + c.toNat / 64) / 4) = b := by
  have hb : b.toNat < 256 := b.toNat_lt_size
  have hc : c.toNat < 256 := c.toNat_lt_size
  rw [show (a.toNat % 4 * 16 + b.toNat / 16) % 16 * 16 + (b.toNat % 16 * 4 + c.toNat / 64) / 4 =
    b.toNat by omega, UInt8.ofNat_toNat]

/-- The third byte comes from its last two letters. -/
theorem third_byte (b c : UInt8) :
    UInt8.ofNat ((b.toNat % 16 * 4 + c.toNat / 64) % 4 * 64 + c.toNat % 64) = c := by
  have hc : c.toNat < 256 := c.toNat_lt_size
  rw [show (b.toNat % 16 * 4 + c.toNat / 64) % 4 * 64 + c.toNat % 64 = c.toNat by omega,
    UInt8.ofNat_toNat]

theorem decodeChars?_encodeBytes (bytes : List UInt8) :
    decodeChars? (encodeBytes bytes) = some bytes := by
  fun_induction encodeBytes bytes with
  | case1 => rfl
  | case2 a =>
    have ha : a.toNat < 256 := a.toNat_lt_size
    have hfirst : UInt8.ofNat (a.toNat / 4 * 4 + a.toNat % 4 * 16 / 16) = a := first_byte a 0
    rw [decodeChars?, index?_letter (by omega), index?_letter (by omega)]
    simp only [Option.bind_eq_bind, Option.bind_some, Option.pure_def, hfirst]
  | case3 a b =>
    have ha : a.toNat < 256 := a.toNat_lt_size
    have hb : b.toNat < 256 := b.toNat_lt_size
    have hsecond : UInt8.ofNat ((a.toNat % 4 * 16 + b.toNat / 16) % 16 * 16 +
        b.toNat % 16 * 4 / 4) = b := second_byte a b 0
    rw [decodeChars?, index?_letter (by omega), index?_letter (by omega),
      index?_letter (by omega)]
    · simp only [Option.bind_eq_bind, Option.bind_some, Option.pure_def, first_byte, hsecond]
    · exact letter_ne_pad (by omega)
  | case4 a b c rest ih =>
    have ha : a.toNat < 256 := a.toNat_lt_size
    have hb : b.toNat < 256 := b.toNat_lt_size
    have hc : c.toNat < 256 := c.toNat_lt_size
    have hlast : letter (c.toNat % 64) ≠ '=' := letter_ne_pad (by omega)
    rw [decodeChars?, ih, index?_letter (by omega), index?_letter (by omega),
      index?_letter (by omega), index?_letter (by omega)]
    · simp only [Option.bind_eq_bind, Option.bind_some, Option.pure_def, first_byte, second_byte,
        third_byte]
    · exact fun _ h => absurd h hlast
    · exact fun h => absurd h hlast

/-- **Reading back.**  The bytes of a written text are those it was written for. -/
theorem decode?_encode (b : ByteArray) : decode? (encode b) = some b := by
  simp [decode?, encode, decodeChars?_encodeBytes]

theorem length_encodeBytes (bytes : List UInt8) :
    (encodeBytes bytes).length = 4 * ((bytes.length + 2) / 3) := by
  fun_induction encodeBytes bytes with
  | case1 => rfl
  | case2 => simp
  | case3 => simp
  | case4 a b c rest ih =>
    simp only [List.length_cons, ih]
    omega

/-- A text has four characters for every three bytes begun. -/
theorem length_encode (b : ByteArray) : (encode b).length = 4 * ((b.size + 2) / 3) := by
  rw [encode, String.length_ofList, length_encodeBytes, ByteArray.length_toList]

end RapidUpload.Base64
