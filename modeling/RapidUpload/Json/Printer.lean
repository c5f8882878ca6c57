import RapidUpload.Json.Integer
import RapidUpload.Bytes.Hex
import RapidUpload.Text.Half

/-!
# JSON on the wire

* `Json.wire`: one line in ASCII, `", "` between items and `": "` after a name.
* `Json.write`: that line, or why the value has none.
* `Json.pretty`: one item a line, indented by two, other characters kept.
-/

namespace RapidUpload.Json

/-- A code unit as `\uXXXX`. -/
def unit (n : Nat) : List Char :=
  '\\' :: 'u' :: Hex.padded 4 n

/-- The escape of a character that has a short one or none may stand for. -/
def shortEscape? (c : Char) : Option (List Char) :=
  if c = '"' then some ['\\', '"']
  else if c = '\\' then some ['\\', '\\']
  else if c = '\n' then some ['\\', 'n']
  else if c = '\r' then some ['\\', 'r']
  else if c = '\t' then some ['\\', 't']
  else if c.toNat = 8 then some ['\\', 'b']
  else if c.toNat = 12 then some ['\\', 'f']
  else none

/-- A code as one code unit, or past U+FFFF as a pair. -/
def units (n : Nat) : List Char :=
  if n < 0x10000 then unit n
  else unit (0xd800 + (n - 0x10000) / 0x400) ++ unit (0xdc00 + (n - 0x10000) % 0x400)

/-- A code of an ASCII text: from the space to the tilde as its character, another one escaped. -/
def asciiCode (n : Nat) : List Char :=
  match shortEscape? (Char.ofNat n) with
  | some e => e
  | none => if 32 ≤ n ∧ n ≤ 126 then [Char.ofNat n] else units n

/-- A code of a Unicode text: controls below the space are escaped. -/
def wideCode (n : Nat) : List Char :=
  match shortEscape? (Char.ofNat n) with
  | some e => e
  | none => if 32 ≤ n then Text.ofCode n else units n

/-- A text in quotes. -/
def quoted (code : Nat → List Char) (s : String) : List Char :=
  '"' :: (Text.codes s.toList).flatMap code ++ ['"']

/-- A binary64 number, with names for what is none. -/
def floatText (x : Double) : String :=
  if x.isNaN then "NaN"
  else if x.isInfinite then (if x.negative then "-Infinity" else "Infinity")
  else x.text

/-- A value without items. -/
def scalarText (code : Nat → List Char) : Json → List Char
  | .null => "null".toList
  | .bool b => (if b then "true" else "false").toList
  | .int n => (toString n).toList
  | .float x => (floatText x).toList
  | .str s => quoted code s
  | .arr _ => ['[', ']']
  | .obj _ => ['\x7b', '\x7d']

mutual

/-- The characters of the one-line text. -/
def wireChars : Json → List Char
  | .arr items => '[' :: wireItems items
  | .obj fields => '\x7b' :: wireFields fields
  | v => scalarText asciiCode v

/-- The items and the closing bracket. -/
def wireItems : List Json → List Char
  | [] => [']']
  | v :: rest => wireChars v ++ (if rest.isEmpty then [] else [',', ' ']) ++ wireItems rest

/-- The fields and the closing brace. -/
def wireFields : List (String × Json) → List Char
  | [] => ['\x7d']
  | (k, v) :: rest =>
    quoted asciiCode k ++ ':' :: ' ' :: wireChars v
      ++ (if rest.isEmpty then [] else [',', ' ']) ++ wireFields rest

end

/-- One line of ASCII. -/
def wire (v : Json) : String :=
  String.ofList (wireChars v)

/-- Why a value has no text on the wire. -/
inductive WriteError where
  /-- An integer has more digits than are written. -/
  | longInteger
  /-- More values stand one inside the other than are written. -/
  | tooDeep
deriving DecidableEq

mutual

/-- Goes through a value in the order it is written in; `room` bounds the arrays and objects one
inside the other. -/
def check (room : Nat) : Json → Except WriteError Unit
  | .int n => if Integer.Short n then .ok () else .error .longInteger
  | .arr items =>
    match room with
    | 0 => .error .tooDeep
    | room + 1 => checkItems room items
  | .obj fields =>
    match room with
    | 0 => .error .tooDeep
    | room + 1 => checkFields room fields
  | _ => .ok ()

/-- Goes through items. -/
def checkItems (room : Nat) : List Json → Except WriteError Unit
  | [] => .ok ()
  | v :: rest => do
    check room v
    checkItems room rest

/-- Goes through fields. -/
def checkFields (room : Nat) : List (String × Json) → Except WriteError Unit
  | [] => .ok ()
  | (_, v) :: rest => do
    check room v
    checkFields room rest

end

/-- The line of a value, with room for so many arrays and objects one inside the other. -/
def write (room : Nat) (v : Json) : Except WriteError String := do
  check room v
  return wire v

/-- The start of a line at a depth. -/
def newLine (depth : Nat) : List Char :=
  '\n' :: List.replicate (2 * depth) ' '

mutual

/-- The characters of the indented text. -/
def prettyChars (depth : Nat) : Json → List Char
  | .arr (v :: rest) => '[' :: prettyItems (depth + 1) (v :: rest) ++ newLine depth ++ [']']
  | .obj (f :: rest) => '\x7b' :: prettyFields (depth + 1) (f :: rest) ++ newLine depth ++ ['\x7d']
  | v => scalarText wideCode v

/-- The items, each on its line. -/
def prettyItems (depth : Nat) : List Json → List Char
  | [] => []
  | v :: rest =>
    newLine depth ++ prettyChars depth v ++ (if rest.isEmpty then [] else [',']) ++
      prettyItems depth rest

/-- The fields, each on its line. -/
def prettyFields (depth : Nat) : List (String × Json) → List Char
  | [] => []
  | (k, v) :: rest =>
    newLine depth ++ quoted wideCode k ++ ':' :: ' ' :: prettyChars depth v
      ++ (if rest.isEmpty then [] else [',']) ++ prettyFields depth rest

end

/-- One item a line, indented by two. -/
def pretty (v : Json) : String :=
  String.ofList (prettyChars 0 v)

end RapidUpload.Json
