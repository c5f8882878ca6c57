/-!
# Hexadecimal text

* `Hex.encode`: two lower-case digits a byte, the high half first.
* `Hex.decode?`: the bytes of such a text, in either case.
* `Hex.natOf`: the number a row of digits stands for.
-/

namespace RapidUpload.Hex

/-- The digit of a number below sixteen. -/
def digit (n : Nat) : Char :=
  if n < 10 then Char.ofNat (48 + n) else Char.ofNat (87 + n)

/-- The value of a digit. -/
def value? (c : Char) : Option Nat :=
  if '0' ≤ c ∧ c ≤ '9' then some (c.toNat - 48)
  else if 'a' ≤ c ∧ c ≤ 'f' then some (c.toNat - 87)
  else if 'A' ≤ c ∧ c ≤ 'F' then some (c.toNat - 55)
  else none

/-- The two digits of a byte. -/
def pair (b : UInt8) : List Char :=
  [digit (b.toNat / 16), digit (b.toNat % 16)]

/-- Two lower-case digits a byte, the high half first. -/
def encode (b : ByteArray) : String :=
  String.ofList (b.data.toList.flatMap pair)

/-- The bytes of a row of digit pairs. -/
def decodeChars? : List Char → Option (List UInt8)
  | [] => some []
  | [_] => none
  | h :: l :: rest => do
    let h ← value? h
    let l ← value? l
    let bytes ← decodeChars? rest
    return UInt8.ofNat (16 * h + l) :: bytes

/-- The bytes of a text of digit pairs. -/
def decode? (s : String) : Option ByteArray :=
  (decodeChars? s.toList).map fun bytes => ⟨bytes.toArray⟩

/-- The number a row of digits stands for; a character that is no digit counts as zero. -/
def natOf (cs : List Char) : Nat :=
  cs.foldl (fun n c => 16 * n + (value? c).getD 0) 0

/-- The last `width` digits of `n`. -/
def padded (width n : Nat) : List Char :=
  match width with
  | 0 => []
  | width + 1 => padded width (n / 16) ++ [digit (n % 16)]

end RapidUpload.Hex
