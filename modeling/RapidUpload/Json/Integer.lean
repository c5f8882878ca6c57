import RapidUpload.Json.Basic
import RapidUpload.Text.Word
import RapidUpload.Text.Digit

/-!
# Whole numbers in JSON values

A server may send a whole number as an integer, as a truth value, as a binary64 number or as
text.

* `Json.integer`: the integer a value stands for, or why there is none.
* `Integer.ofText?`: an integer with blanks around it, a sign, the digits of any script, and
  single underscores between digits.
* `Integer.Short`: an integer with few enough digits for a text.
* `Json.isShort`: every integer in a value is one.
-/

namespace RapidUpload

namespace Integer

/-- The most digits of an integer in text. -/
def digitLimit : Nat := 4300

/-- The integer has no more digits than a text may have. -/
def Short (n : Int) : Prop := (Nat.toDigits 10 n.natAbs).length ≤ digitLimit

instance (n : Int) : Decidable (Short n) := inferInstanceAs (Decidable (_ ≤ _))

/-- The values of a row of digits; an underscore stands between two digits. -/
def digits? : List Char → Option (List Nat)
  | [] => none
  | [c] => (Text.digitValue? c).map ([·])
  | c :: '_' :: rest => do
    let d ← Text.digitValue? c
    let ds ← digits? rest
    return d :: ds
  | c :: rest => do
    let d ← Text.digitValue? c
    let ds ← digits? rest
    return d :: ds

/-- The sign and what follows it. -/
def sign : List Char → Bool × List Char
  | '-' :: rest => (true, rest)
  | '+' :: rest => (false, rest)
  | cs => (false, cs)

/-- The integer a text stands for. -/
def ofText? (s : String) : Option Int := do
  let (negative, cs) := sign (Text.trim Text.isBlank s.toList)
  let ds ← digits? cs
  if digitLimit < ds.length then none
  else
    let n : Int := (ds.foldl (fun n d => 10 * n + d) 0 : Nat)
    return if negative then -n else n

end Integer

/-- Why a value stands for no integer. -/
inductive Json.NoInteger where
  /-- A text or a number without a whole part. -/
  | unreadable
  /-- An infinity. -/
  | unbounded
  /-- A value of a kind that holds no number. -/
  | noNumber

/-- The integer a value stands for, a binary64 number cut toward zero. -/
def Json.integer : Json → Except Json.NoInteger Int
  | .bool b => .ok (if b then 1 else 0)
  | .int n => .ok n
  | .float x =>
    if x.isNaN then .error .unreadable
    else if x.isInfinite then .error .unbounded
    else .ok x.truncate
  | .str s =>
    match Integer.ofText? s with
    | some n => .ok n
    | none => .error .unreadable
  | .null | .arr _ | .obj _ => .error .noNumber

namespace Json

mutual

/-- Every integer in a value has a text. -/
def isShort : Json → Bool
  | .int n => decide (Integer.Short n)
  | .arr items => isShortItems items
  | .obj fields => isShortFields fields
  | _ => true

/-- Every integer in the items has a text. -/
def isShortItems : List Json → Bool
  | [] => true
  | v :: rest => isShort v && isShortItems rest

/-- Every integer in the fields has a text. -/
def isShortFields : List (String × Json) → Bool
  | [] => true
  | (_, v) :: rest => isShort v && isShortFields rest

end

end Json

end RapidUpload
