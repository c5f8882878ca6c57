import RapidUpload.Number.Power

/-!
# Binary64 numbers

A number of IEEE 754's binary64 format by its bits, with exact integer arithmetic for reading,
comparing and writing it.

* `Double.ofRatio`: the number nearest to a quotient, ties to the even neighbour.
* `Double.ofDecimal`: the number nearest to a decimal.
* `Double.shortest`: the fewest digits that read back, the nearest of those.
* `Double.fixed`: the exact value cut to some places, ties to the even neighbour.
-/

namespace RapidUpload

/-- A binary64 number, by its sixty-four bits. -/
structure Double where
  bits : UInt64
deriving DecidableEq, Inhabited

/-- The quotient rounded to the nearest integer, ties to the even one. -/
def roundHalfEven (num den : Nat) : Nat :=
  let d := num / den
  let r := num % den
  if den < 2 * r ∨ (2 * r = den ∧ d % 2 = 1) then d + 1 else d

namespace Double

/-- The sign bit. -/
def negative (x : Double) : Bool :=
  pow2 63 ≤ x.bits.toNat

/-- The eleven bits of the exponent. -/
def exponentField (x : Double) : Nat :=
  x.bits.toNat / pow2 52 % pow2 11

/-- The fifty-two bits of the fraction. -/
def fraction (x : Double) : Nat :=
  x.bits.toNat % pow2 52

/-- Not a number. -/
def isNaN (x : Double) : Bool :=
  x.exponentField == 2047 && x.fraction != 0

/-- One of the two infinities. -/
def isInfinite (x : Double) : Bool :=
  x.exponentField == 2047 && x.fraction == 0

/-- The significand `m` and the power `q` with `|x| = m · 2 ^ q`, for a finite `x`. -/
def parts (x : Double) : Nat × Int :=
  if x.exponentField = 0 then (x.fraction, -1074)
  else (pow2 52 + x.fraction, (x.exponentField : Int) - 1075)

/-- The magnitude of a finite number as a quotient. -/
def magnitude (x : Double) : Nat × Nat :=
  let (m, q) := x.parts
  if 0 ≤ q then (m * pow2 q.toNat, 1) else (m, pow2 (-q).toNat)

/-- The number with the bits of a magnitude and a sign. -/
def ofBits (negative : Bool) (bits : Nat) : Double :=
  ⟨UInt64.ofNat (if negative then pow2 63 + bits else bits)⟩

/-- The bits of infinity. -/
def infinityBits : Nat := 2047 * pow2 52

/-- The infinity of a sign. -/
def infinity (negative : Bool) : Double := ofBits negative infinityBits

/-- The number that is none. -/
def nan : Double := ofBits false (infinityBits + pow2 51)

/-- `num / den` in units of `2 ^ q`. -/
def inUnits (num den : Nat) (q : Int) : Nat × Nat :=
  if 0 ≤ q then (num, den * pow2 q.toNat) else (num * pow2 (-q).toNat, den)

/-- The power of two of the unit in the last place of the number nearest to `num / den`. -/
def unitOf (num den : Nat) : Int :=
  let low := (num.log2 : Int) - den.log2 - 53
  let (n, d) := inUnits num den low
  max (if n / d < pow2 53 then low else low + 1) (-1074)

/-- The number nearest to `num / den`, ties to the even one, with infinity past the largest. -/
def ofRatio (negative : Bool) (num den : Nat) : Double :=
  if num = 0 then ofBits negative 0
  else
    let q := unitOf num den
    let (n, d) := inUnits num den q
    ofBits negative (min infinityBits ((q + 1074).toNat * pow2 52 + roundHalfEven n d))

/-- Digits in the decimal text of `n`. -/
def digitCount (n : Nat) : Nat :=
  (Nat.toDigits 10 n).length

/-- The number nearest to `digits · 10 ^ power`. A power far outside the format's range decides
by itself. -/
def ofDecimal (negative : Bool) (digits : Nat) (power : Int) : Double :=
  if digits = 0 then ofBits negative 0
  else if 400 < digitCount digits + power then infinity negative
  else if digitCount digits + power < -400 then ofBits negative 0
  else if 0 ≤ power then ofRatio negative (digits * pow10 power.toNat) 1
  else ofRatio negative digits (pow10 (-power).toNat)

/-- The whole part of a finite number, toward zero. -/
def truncate (x : Double) : Int :=
  let (n, d) := x.magnitude
  if x.negative then -((n / d : Nat) : Int) else (n / d : Nat)

/-- Neither zero. -/
def isNonzero (x : Double) : Bool :=
  x.bits.toNat % pow2 63 != 0

/-- Equality of values: the zeros are equal and what is no number equals nothing. -/
def sameValue (x y : Double) : Bool :=
  !x.isNaN && !y.isNaN && (x.bits == y.bits || (!x.isNonzero && !y.isNonzero))

/-- Equality with an integer, in exact arithmetic. -/
def equalsInt (x : Double) (n : Int) : Bool :=
  x.exponentField != 2047 &&
    (let (num, den) := x.magnitude
     (if x.negative then -(num : Int) else num) == n * den)

/-! ### The shortest decimal -/

/-- The power of ten of the first digit of `num / den`, for `num ≠ 0`. -/
def leadingPower (num den : Nat) : Int :=
  if den ≤ num then (digitCount (num / den) : Int) - 1
  else
    let places := (digitCount den : Int) - digitCount num
    if den ≤ num * pow10 places.toNat then -places else -places - 1

/-- `num / den` in units of `10 ^ k`. -/
def inDecimalUnits (num den : Nat) (k : Int) : Nat × Nat :=
  if 0 ≤ k then (num, den * pow10 k.toNat) else (num * pow10 (-k).toNat, den)

/-- The decimal on the grid of `10 ^ k` that reads back as the positive number `x`: of the two
neighbours of the exact value the one that does, and of two the nearer. -/
def onGrid (x : Double) (k : Int) : Option Nat :=
  let (num, den) := x.magnitude
  let (n, d) := inDecimalUnits num den k
  let below := n / d
  let near := roundHalfEven n d
  let far := if near = below then below + 1 else below
  if ofDecimal false near k = x then some near
  else if ofDecimal false far k = x then some far
  else none

/-- The digits and the power of the shortest decimal that reads back as the positive finite `x`,
tried from one digit to seventeen. -/
def shortest (x : Double) : Nat × Int :=
  let (num, den) := x.magnitude
  let top := leadingPower num den
  let tries := (List.range 17).findSome? fun (i : Nat) =>
    let k := top - i
    (x.onGrid k).map fun digits => (digits, k)
  tries.getD (roundHalfEven num den, 0)

/-- Removes the zeros at the end. -/
def trimZeros (cs : List Char) : List Char :=
  (cs.reverse.dropWhile (· == '0')).reverse

/-- `n` zeros. -/
def zeros (n : Nat) : List Char := List.replicate n '0'

/-- The text of digits whose point stands after the first `point` of them: positional with at
least one digit on both sides of the point where the first digit stands between the fourth place
after the point and the sixteenth before it, else with an exponent of two digits or more. -/
def layOut (digits : List Char) (point : Int) : List Char :=
  let count := digits.length
  if point ≤ -4 ∨ 16 < point then
    let power := point - 1
    let mark := if power < 0 then '-' else '+'
    let size := Nat.toDigits 10 power.natAbs
    let tail := digits.drop 1
    digits.take 1 ++ (if tail.isEmpty then [] else '.' :: tail) ++ ['e', mark]
      ++ zeros (2 - size.length) ++ size
  else if point ≤ 0 then '0' :: '.' :: (zeros (-point).toNat ++ digits)
  else if point.toNat < count then digits.take point.toNat ++ '.' :: digits.drop point.toNat
  else digits ++ zeros (point.toNat - count) ++ ['.', '0']

/-- The text of a number: the shortest decimal that reads back, or `nan`, `inf`, `-inf`. -/
def text (x : Double) : String :=
  if x.isNaN then "nan"
  else
    let sign := if x.negative then ['-'] else []
    let body :=
      if x.isInfinite then ['i', 'n', 'f']
      else if !x.isNonzero then ['0', '.', '0']
      else
        let (digits, power) := shortest ⟨UInt64.ofNat (x.bits.toNat % pow2 63)⟩
        let cs := Nat.toDigits 10 digits
        layOut (trimZeros cs) (cs.length + power)
    String.ofList (sign ++ body)

/-- The exact value of a finite positive number cut to `places` digits after the point, ties to
the even neighbour. -/
def fixed (x : Double) (places : Nat) : String :=
  let (num, den) := x.magnitude
  let cs := Nat.toDigits 10 (roundHalfEven (num * pow10 places) den)
  let cs := zeros (places + 1 - cs.length) ++ cs
  let whole := cs.length - places
  String.ofList (cs.take whole ++ (if places = 0 then [] else '.' :: cs.drop whole))

end Double

end RapidUpload
