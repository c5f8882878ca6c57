import RapidUpload.Bytes.Hex
import RapidUpload.Text.Name

/-!
# Tokens of literals

What a value written as text is made of: numbers, texts in quotes, words and marks.

* `Literal.tokens?`: the tokens of a text, unless it holds something else.
-/

namespace RapidUpload.Console.Literal

/-- A token. What a number or a text stands for is not kept. -/
inductive Token where
  | number (imaginary : Bool)
  | text (bytes : Bool)
  | word (w : String)
  | mark (c : Char)
  /-- Three dots. -/
  | dots
deriving DecidableEq

/-- Part of a name. -/
def isNameChar (c : Char) : Bool := c == '_' || c.isAlphanum || 128 ≤ c.toNat

/-! ### Numbers -/

/-- The most digits of an integer. -/
def digitLimit : Nat := 4300

/-- The digits at the start, with single underscores between them, and what follows. -/
def digits (p : Char → Bool) : List Char → List Char × List Char
  | c :: '_' :: d :: rest =>
    if !p c then ([], c :: '_' :: d :: rest)
    else if p d then
      let (ds, after) := digits p (d :: rest)
      (c :: ds, after)
    else ([c], '_' :: d :: rest)
  | c :: rest =>
    if p c then
      let (ds, after) := digits p rest
      (c :: ds, after)
    else ([], c :: rest)
  | [] => ([], [])

/-- Whether a point and a fraction stand at the start, and what follows them. -/
def fraction (cs : List Char) : Bool × List Char :=
  match cs with
  | '.' :: rest => (true, (digits Char.isDigit rest).2)
  | cs => (false, cs)

/-- Whether a power of ten stands at the start, and what follows it. -/
def power (cs : List Char) : Bool × List Char :=
  let rest := match cs.drop 1 with
    | '+' :: rest | '-' :: rest => rest
    | rest => rest
  let (ds, after) := digits Char.isDigit rest
  if (cs.head?.any fun c => c.toLower == 'e') && !ds.isEmpty then (true, after) else (false, cs)

/-- An integer without a needless zero before it and not too long. -/
def isInteger (ds : List Char) : Bool :=
  ds.all (· == '0') || (ds.head? != some '0' && ds.length ≤ digitLimit)

/-- A decimal number at the start. -/
def decimal? (cs : List Char) : Option (Token × List Char) :=
  let (whole, rest) := digits Char.isDigit cs
  let (hasPoint, rest) := fraction rest
  let (hasPower, rest) := power rest
  if rest.head?.any fun c => c.toLower == 'j' then some (.number true, rest.drop 1)
  else if hasPoint || hasPower || isInteger whole then some (.number false, rest)
  else none

/-- The digits of a base that goes by a letter. -/
def baseDigit? (letter : Char) : Option (Char → Bool) :=
  match letter.toLower with
  | 'x' => some fun c => (Hex.value? c).isSome
  | 'o' => some fun c => '0' ≤ c && c ≤ '7'
  | 'b' => some fun c => c == '0' || c == '1'
  | _ => none

/-- A number of a base at the start, after its zero and its letter. -/
def based? (p : Char → Bool) (cs : List Char) : Option (Token × List Char) :=
  let cs := match cs with
    | '_' :: cs => cs
    | cs => cs
  let (ds, rest) := digits p cs
  if ds.isEmpty then none else some (.number false, rest)

/-- A number at the start; no name follows it at once. -/
def number? (cs : List Char) : Option (Token × List Char) := do
  let (t, rest) ← match cs with
    | '0' :: letter :: rest =>
      match baseDigit? letter with
      | some p => based? p rest
      | none => decimal? cs
    | _ => decimal? cs
  if rest.head?.any isNameChar then none else return (t, rest)

/-! ### Texts -/

/-- The text up to the quotes that close it, one or three, and what follows them. A backslash keeps
the character after it, and a text between single quotes ends on its line. -/
def body? (long : Bool) (q : Char) : List Char → Option (List Char × List Char)
  | [] => none
  | '\\' :: c :: rest => (body? long q rest).map fun (body, after) => ('\\' :: c :: body, after)
  | c :: rest =>
    if c = q ∧ (!long ∨ [q, q].isPrefixOf rest) then
      some ([], if long then rest.drop 2 else rest)
    else if c = '\n' ∧ !long then none
    else (body? long q rest).map fun (body, after) => (c :: body, after)

/-- The number of a character in hex digits, so many of them. -/
def codeOf? (n : Nat) (cs : List Char) : Option Nat :=
  if cs.length < n then none
  else (cs.take n).foldlM (fun code c => (Hex.value? c).map (16 * code + ·)) 0

/-- The name of a character in braces. -/
def isNamed : List Char → Bool
  | '\x7b' :: cs =>
    let name := cs.takeWhile (· != '\x7d')
    name.length < cs.length && Text.isName name
  | _ => false

/-- The escape of a letter can be read before the characters after it. -/
def isEscape (bytes : Bool) (c : Char) (after : List Char) : Bool :=
  if c == 'x' then (codeOf? 2 after).isSome
  else if bytes then true
  else if c == 'u' then (codeOf? 4 after).isSome
  else if c == 'U' then (codeOf? 8 after).any (· < 0x110000)
  else if c == 'N' then isNamed after
  else true

/-- Every escape of a text can be read. -/
def escapesRead (bytes : Bool) : List Char → Bool
  | [] => true
  | '\\' :: c :: rest => isEscape bytes c rest && escapesRead bytes rest
  | _ :: rest => escapesRead bytes rest

/-- The letters that may stand before a text, with whether they ask for bytes and whether a
backslash stands for itself. -/
def leads : List (String × Bool × Bool) := [
  ("", false, false), ("u", false, false), ("b", true, false), ("r", false, true),
  ("br", true, true), ("rb", true, true)]

/-- A text at the start, after the letters before it. -/
def text? (letters : String) (cs : List Char) : Option (Token × List Char) := do
  let (bytes, raw) ← leads.lookup letters.toLower
  let q ← cs.head?
  let long := [q, q, q].isPrefixOf cs
  let (body, after) ← body? long q (cs.drop (if long then 3 else 1))
  if bytes && !body.all (·.toNat < 128) then none
  else if raw || escapesRead bytes body then return (.text bytes, after)
  else none

/-! ### Words -/

/-- The letters that stand for one of ASCII in another style: long, raised, lowered, wide or as in
formulas. -/
def styled : List (Char × List Nat) := [
  ('s', [
    0x17f, 0x2e2, 0x209b, 0xff53, 0x1d42c, 0x1d460, 0x1d494, 0x1d4c8, 0x1d4fc, 0x1d530, 0x1d564,
    0x1d598, 0x1d5cc, 0x1d600, 0x1d634, 0x1d668, 0x1d69c]),
  ('e', [
    0x1d49, 0x2091, 0x212f, 0x2147, 0xff45, 0x1d41e, 0x1d452, 0x1d486, 0x1d4ee, 0x1d522, 0x1d556,
    0x1d58a, 0x1d5be, 0x1d5f2, 0x1d626, 0x1d65a, 0x1d68e]),
  ('t', [
    0x1d57, 0x209c, 0xff54, 0x1d42d, 0x1d461, 0x1d495, 0x1d4c9, 0x1d4fd, 0x1d531, 0x1d565, 0x1d599,
    0x1d5cd, 0x1d601, 0x1d635, 0x1d669, 0x1d69d])]

/-- The letter that a styled one stands for. -/
def unstyled (c : Char) : Char :=
  ((styled.find? fun (_, codes) => codes.contains c.toNat).map (·.1)).getD c

/-! ### Lines -/

/-- Whether the blanks at the start of a line set it in, and what follows them. A backslash at the
end of a line ties the next one to it; then the line counts as set in if any of it is. -/
def margin? (tied here : Bool) : List Char → Option (Bool × List Char)
  | ' ' :: rest | '\t' :: rest => margin? tied true rest
  | '\x0c' :: rest => margin? tied false rest
  | '\\' :: '\n' :: c :: rest => margin? (tied || here) here (c :: rest)
  | '\\' :: _ => none
  | cs => some (tied || here, cs)

/-- What follows the lines at the start that hold nothing but blanks and remarks; a value starts at
the start of its line. `fuel` bounds the lines. -/
def afterIdle? : Nat → List Char → Option (List Char)
  | 0, _ => none
  | fuel + 1, cs => do
    let (isSetIn, rest) ← margin? false false cs
    if rest.head?.any fun c => c == '#' || c == '\n' then
      afterIdle? fuel ((rest.dropWhile (· != '\n')).drop 1)
    else if isSetIn then none
    else return rest

/-! ### Tokens -/

/-- The words that stand for a value, which have one style only. -/
def keywords : List String := ["None", "True", "False"]

/-- A number, a text or a word at the start. -/
def token? (cs : List Char) : Option (Token × List Char) :=
  match cs with
  | [] => none
  | c :: rest =>
    if c.isDigit || (c == '.' && rest.head?.any Char.isDigit) then number? cs
    else
      let word := cs.takeWhile isNameChar
      let after := cs.dropWhile isNameChar
      if after.head?.any fun c => c == '"' || c == '\'' then text? (String.ofList word) after
      else if word.isEmpty then none
      else if word.all (·.toNat < 128) then some (.word (String.ofList word), after)
      else
        let word := String.ofList (word.map unstyled)
        if keywords.contains word then none else some (.word word, after)

/-- The marks between tokens. -/
def marks : List Char := ['(', ')', '\x7b', '\x7d', ',', ':', '+', '-']

/-- The most brackets that are open at once. -/
def bracketLimit : Nat := 200

/-- The brackets that are open after a mark, unless there are too many. -/
def openAfter? (opened : Nat) (mark : Char) : Option Nat :=
  if mark = '(' ∨ mark = '\x7b' then if opened < bracketLimit then some (opened + 1) else none
  else if mark = ')' ∨ mark = '\x7d' then some (opened - 1)
  else some opened

/-- The tokens after some open brackets. A line ends the value unless a bracket is open; `fuel`
bounds the tokens. -/
def tokensFrom? : Nat → Nat → List Char → Option (List Token)
  | 0, _, _ => none
  | _ + 1, _, [] => some []
  | fuel + 1, opened, c :: rest =>
    if c = '\n' ∧ opened = 0 then
      if afterIdle? (rest.length + 1) rest = some [] then some [] else none
    else if c = ' ' ∨ c = '\t' ∨ c = '\x0c' ∨ c = '\n' then tokensFrom? fuel opened rest
    else if c = '#' then tokensFrom? fuel opened (rest.dropWhile (· != '\n'))
    else if marks.contains c then do
      let opened ← openAfter? opened c
      return .mark c :: (← tokensFrom? fuel opened rest)
    else
      match c, rest with
      | '\\', '\n' :: d :: rest => tokensFrom? fuel opened (d :: rest)
      | '.', '.' :: '.' :: rest => (tokensFrom? fuel opened rest).map (.dots :: ·)
      | _, _ => do
        let (t, rest) ← token? (c :: rest)
        return t :: (← tokensFrom? fuel opened rest)

/-- The text with one kind of line end. -/
def sameEnds : List Char → List Char
  | '\r' :: '\n' :: rest => '\n' :: sameEnds rest
  | '\r' :: rest => '\n' :: sameEnds rest
  | c :: rest => c :: sameEnds rest
  | [] => []

/-- The tokens of a text. -/
def tokens? (cs : List Char) : Option (List Token) := do
  let rest ← afterIdle? (cs.length + 1) (sameEnds cs)
  tokensFrom? (cs.length + 1) 0 rest

end RapidUpload.Console.Literal
