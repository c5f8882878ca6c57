import RapidUpload.Json.Integer
import RapidUpload.Bytes.Hex
import RapidUpload.Text.Half

/-!
# Reading JSON

The strict grammar with `NaN`, `Infinity` and `-Infinity` besides: blanks are the space, the tab
and the two line ends; a text holds no raw control.  A repeated name keeps its first place and
its last value.

* `Json.read`: the value a text stands for, or why there is none.
-/

namespace RapidUpload

/-- Why a text stands for no value. -/
inductive Json.ReadError where
  /-- The text breaks the grammar. -/
  | malformed
  /-- An integer has more digits than are read. -/
  | longInteger
  /-- More values stand one inside the other than are read. -/
  | tooDeep
deriving DecidableEq

namespace Json

/-- The most arrays and objects one inside the other that are read. -/
def depthLimit : Nat := 978

/-- Stands between tokens. -/
def isSpace (c : Char) : Bool :=
  c == ' ' || c == '\t' || c == '\n' || c == '\r'

/-- The text after its blanks. -/
def skip (cs : List Char) : List Char :=
  cs.dropWhile isSpace

/-! ### Texts -/

/-- A piece of a text: a character, or a code unit written by its number. -/
inductive Piece where
  | char (c : Char)
  | unit (n : Nat)

/-- The four digits of a code unit. -/
def unitOf? (a b c d : Char) : Option Nat := do
  let a ← Hex.value? a
  let b ← Hex.value? b
  let c ← Hex.value? c
  let d ← Hex.value? d
  return 4096 * a + 256 * b + 16 * c + d

/-- The character a short escape stands for. -/
def unescape? (c : Char) : Option Char :=
  if c = '"' ∨ c = '\\' ∨ c = '/' then some c
  else if c = 'n' then some '\n'
  else if c = 'r' then some '\r'
  else if c = 't' then some '\t'
  else if c = 'b' then some (Char.ofNat 8)
  else if c = 'f' then some (Char.ofNat 12)
  else none

/-- The pieces of a text up to its closing quote, and what follows the quote. -/
def pieces : List Char → Option (List Piece × List Char)
  | [] => none
  | '"' :: rest => some ([], rest)
  | '\\' :: 'u' :: a :: b :: c :: d :: rest => do
    let n ← unitOf? a b c d
    let (ps, rest) ← pieces rest
    return (.unit n :: ps, rest)
  | '\\' :: c :: rest => do
    let e ← unescape? c
    let (ps, rest) ← pieces rest
    return (.char e :: ps, rest)
  | c :: rest =>
    if c.toNat < 32 ∨ c = '\\' then none
    else do
      let (ps, rest) ← pieces rest
      return (.char c :: ps, rest)

/-- The characters of the pieces, two units of a pair making one. -/
def joinPieces : List Piece → List Char
  | [] => []
  | .char c :: rest => c :: joinPieces rest
  | .unit n :: .unit m :: rest =>
    if Text.isHigh n && Text.isLow m then
      Text.ofCode (0x10000 + (n - 0xd800) * 0x400 + (m - 0xdc00)) ++ joinPieces rest
    else Text.ofCode n ++ joinPieces (.unit m :: rest)
  | .unit n :: rest => Text.ofCode n ++ joinPieces rest

/-- A text up to its closing quote. -/
def readText (cs : List Char) : Except ReadError (String × List Char) :=
  match pieces cs with
  | some (ps, rest) => .ok (String.ofList (joinPieces ps), rest)
  | none => .error .malformed

/-! ### Numbers -/

/-- The digits at the start. -/
def digitRun (cs : List Char) : List Char := cs.takeWhile Char.isDigit

/-- What follows the digits at the start. -/
def afterDigits (cs : List Char) : List Char := cs.dropWhile Char.isDigit

/-- The number a row of digits stands for. -/
def natOfDigits (cs : List Char) : Nat :=
  cs.foldl (fun n c => 10 * n + (c.toNat - 48)) 0

/-- A point and the digits after it; a point without digits is not taken. -/
def readFraction : List Char → Option (List Char) × List Char
  | '.' :: rest =>
    if (digitRun rest).isEmpty then (none, '.' :: rest)
    else (some (digitRun rest), afterDigits rest)
  | cs => (none, cs)

/-- The sign and the digits of an exponent. -/
def readPower : List Char → Bool × List Char
  | '-' :: rest => (true, rest)
  | '+' :: rest => (false, rest)
  | cs => (false, cs)

/-- A mark and an exponent; a mark without digits is not taken. -/
def readExponent : List Char → Option Int × List Char
  | [] => (none, [])
  | c :: rest =>
    if c = 'e' ∨ c = 'E' then
      let (negative, ds) := readPower rest
      if (digitRun ds).isEmpty then (none, c :: rest)
      else
        let n : Int := natOfDigits (digitRun ds)
        (some (if negative then -n else n), afterDigits ds)
    else (none, c :: rest)

/-- The whole part of a number: a zero alone, or digits without a leading zero. -/
def readWhole : List Char → Option (List Char × List Char)
  | [] => none
  | c :: rest =>
    if c = '0' then some (['0'], rest)
    else if c.isDigit then some (digitRun (c :: rest), afterDigits (c :: rest))
    else none

/-- A number after its sign: an integer unless a fraction or an exponent follows. -/
def readNumber (negative : Bool) (cs : List Char) : Except ReadError (Json × List Char) :=
  match readWhole cs with
  | none => .error .malformed
  | some (whole, rest) =>
    let (fraction, rest) := readFraction rest
    let (power, rest) := readExponent rest
    match fraction, power with
    | none, none =>
      if Integer.digitLimit < whole.length then .error .longInteger
      else
        let n : Int := natOfDigits whole
        .ok (.int (if negative then -n else n), rest)
    | _, _ =>
      let ds := fraction.getD []
      .ok (.float (Double.ofDecimal negative (natOfDigits (whole ++ ds))
        (power.getD 0 - ds.length)), rest)

/-! ### Values -/

/-- The words that stand for a value. -/
def words : List (List Char × Json) :=
  [("null".toList, .null), ("true".toList, .bool true), ("false".toList, .bool false),
    ("NaN".toList, .float Double.nan), ("Infinity".toList, .float (Double.infinity false)),
    ("-Infinity".toList, .float (Double.infinity true))]

/-- The value of the word at the start. -/
def readWord? (cs : List Char) : Option (Json × List Char) :=
  words.findSome? fun (w, v) => if w.isPrefixOf cs then some (v, cs.drop w.length) else none

/-- A value that holds no others. -/
def readScalar (cs : List Char) : Except ReadError (Json × List Char) :=
  match readWord? cs with
  | some r => .ok r
  | none =>
    match cs with
    | '"' :: rest => do
      let (s, rest) ← readText rest
      return (.str s, rest)
    | '-' :: rest => readNumber true rest
    | _ => readNumber false cs

mutual

/-- The value at the start; `fuel` bounds the values begun, and `room` those one inside the
other. -/
def readValue (fuel room : Nat) (cs : List Char) : Except ReadError (Json × List Char) :=
  match fuel with
  | 0 => .error .malformed
  | fuel + 1 =>
    match cs, room with
    | '[' :: _, 0 | '\x7b' :: _, 0 => .error .tooDeep
    | '[' :: rest, room + 1 =>
      match skip rest with
      | ']' :: rest => .ok (.arr [], rest)
      | rest => do
        let (items, rest) ← readItems fuel room rest
        return (.arr items, rest)
    | '\x7b' :: rest, room + 1 =>
      match skip rest with
      | '\x7d' :: rest => .ok (.obj [], rest)
      | rest => do
        let (fields, rest) ← readFields fuel room rest []
        return (.obj fields, rest)
    | cs, _ => readScalar cs

/-- Items up to the closing bracket, at least one. -/
def readItems (fuel room : Nat) (cs : List Char) : Except ReadError (List Json × List Char) :=
  match fuel with
  | 0 => .error .malformed
  | fuel + 1 => do
    let (v, rest) ← readValue fuel room cs
    match skip rest with
    | ']' :: rest => return ([v], rest)
    | ',' :: rest =>
      let (items, rest) ← readItems fuel room (skip rest)
      return (v :: items, rest)
    | _ => .error .malformed

/-- Fields up to the closing brace, at least one, after those in `done`. -/
def readFields (fuel room : Nat) (cs : List Char) (done : List (String × Json)) :
    Except ReadError (List (String × Json) × List Char) :=
  match fuel with
  | 0 => .error .malformed
  | fuel + 1 =>
    match cs with
    | '"' :: rest => do
      let (key, rest) ← readText rest
      match skip rest with
      | ':' :: rest =>
        let (v, rest) ← readValue fuel room (skip rest)
        match skip rest with
        | '\x7d' :: rest => return (insert done key v, rest)
        | ',' :: rest => readFields fuel room (skip rest) (insert done key v)
        | _ => .error .malformed
      | _ => .error .malformed
    | _ => .error .malformed

end

/-- The value a text stands for, with room for so many arrays and objects one inside the other. -/
def read (room : Nat) (s : String) : Except ReadError Json := do
  let cs := s.toList
  let (v, rest) ← readValue (2 * cs.length + 1) room (skip cs)
  if (skip rest).isEmpty then return v else .error .malformed

end Json

end RapidUpload
