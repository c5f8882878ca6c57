import RapidUpload.Json.Basic
import RapidUpload.Bytes.Hex
import RapidUpload.Text.Half
import RapidUpload.Text.Printable

/-!
# Values in messages

How a value stands in the text of an error: `None`, `True` and `False` for null and the truth
values, single quotes unless the text has some and no double ones, hidden characters escaped.

* `Json.literal`: the value as a literal.
* `Json.shown`: the same with the quotes of a bare text left off.
-/

namespace RapidUpload.Json

/-- A code in two, four or eight digits. -/
def codeEscape (n : Nat) : List Char :=
  if n ≤ 0xff then '\\' :: 'x' :: Hex.padded 2 n
  else if n ≤ 0xffff then '\\' :: 'u' :: Hex.padded 4 n
  else '\\' :: 'U' :: Hex.padded 8 n

/-- A code between quotes `q`: a hidden character and half of a pair are escaped. -/
def literalCode (q : Char) (n : Nat) : List Char :=
  let c := Char.ofNat n
  if c = q ∨ c = '\\' then ['\\', c]
  else if c = '\n' then ['\\', 'n']
  else if c = '\r' then ['\\', 'r']
  else if c = '\t' then ['\\', 't']
  else if Text.isHalf n || Text.isHidden c then codeEscape n
  else Text.ofCode n

/-- A text in quotes. -/
def literalText (s : String) : List Char :=
  let cs := s.toList
  let q := if cs.contains '\'' && !cs.contains '"' then '"' else '\''
  q :: (Text.codes cs).flatMap (literalCode q) ++ [q]

/-- A value without items. -/
def literalScalar : Json → List Char
  | .null => "None".toList
  | .bool b => (if b then "True" else "False").toList
  | .int n => (toString n).toList
  | .float x => x.text.toList
  | .str s => literalText s
  | .arr _ => ['[', ']']
  | .obj _ => ['\x7b', '\x7d']

mutual

/-- The characters of a literal. -/
def literalChars : Json → List Char
  | .arr items => '[' :: literalItems items
  | .obj fields => '\x7b' :: literalFields fields
  | v => literalScalar v

/-- The items and the closing bracket. -/
def literalItems : List Json → List Char
  | [] => [']']
  | v :: rest => literalChars v ++ (if rest.isEmpty then [] else [',', ' ']) ++ literalItems rest

/-- The fields and the closing brace. -/
def literalFields : List (String × Json) → List Char
  | [] => ['\x7d']
  | (k, v) :: rest =>
    literalText k ++ ':' :: ' ' :: literalChars v
      ++ (if rest.isEmpty then [] else [',', ' ']) ++ literalFields rest

end

/-- The value as a literal. -/
def literal (v : Json) : String :=
  String.ofList (literalChars v)

/-- The value in running text: a text stands for itself, another value as a literal. -/
def shown : Json → String
  | .str s => s
  | v => v.literal

end RapidUpload.Json
