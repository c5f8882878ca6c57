import RapidUpload.Bytes.Hex
import RapidUpload.Text.NameTable

/-!
# Names of characters

Characters have names in capitals.  Those of ideographs and of Korean syllables follow from the
number and from the sounds; all others are listed.

* `Text.isName`: a text is the name of a character, for listed names in either case.
-/

namespace RapidUpload.Text

/-! ### Listed names -/

/-- Looks for a name in the text of a table. Of the name that is being read `kept` characters are
in common with the one before it, and `rest` is what is read of its own, the last character
first. -/
def isAmong (name before : List Char) (kept : Nat) (rest : List Char) : List Char → Bool
  | [] => before.take kept ++ rest.reverse == name
  | c :: cs =>
    if !c.isLower then isAmong name before kept (c :: rest) cs
    else if rest.isEmpty then isAmong name before (kept + (c.toNat - 97)) [] cs
    else
      let read := before.take kept ++ rest.reverse
      read == name || isAmong name read (c.toNat - 97) [] cs

/-- The name is listed. -/
def isListed (name : List Char) : Bool :=
  NameTable.parts.any fun part => isAmong name [] 0 [] (part.flatMap String.toList)

/-! ### Ideographs -/

/-- The numbers of the ideographs. -/
def ideographs : List (Nat × Nat) := [
  (0x3400, 0x4dbf), (0x4e00, 0x9fff), (0x20000, 0x2a6df), (0x2a700, 0x2b738), (0x2b740, 0x2b81d),
  (0x2b820, 0x2cea1), (0x2ceb0, 0x2ebe0), (0x30000, 0x3134a)]

/-- The number of an ideograph in four or five capital digits. -/
def isIdeograph (digits : List Char) : Bool :=
  (digits.length = 4 || digits.length = 5)
    && digits.all (fun c => c.isDigit || ('A' ≤ c && c ≤ 'F'))
    && ideographs.any fun (first, last) => first ≤ Hex.natOf digits && Hex.natOf digits ≤ last

/-! ### Syllables -/

/-- The sounds that begin a syllable. -/
def initials : List String := [
  "G", "GG", "N", "D", "DD", "R", "M", "B", "BB", "S", "SS", "", "J", "JJ", "C", "K", "T", "P", "H"]

/-- The sounds in the middle of a syllable. -/
def medials : List String := [
  "A", "AE", "YA", "YAE", "EO", "E", "YEO", "YE", "O", "WA", "WAE", "OE", "YO", "U", "WEO", "WE",
  "WI", "YU", "EU", "YI", "I"]

/-- The sounds that end a syllable. -/
def finals : List String := [
  "", "G", "GG", "GS", "N", "NJ", "NH", "D", "L", "LG", "LM", "LB", "LS", "LT", "LP", "LH", "M",
  "B", "BS", "S", "SS", "NG", "J", "C", "K", "T", "P", "H"]

/-- What follows the longest of the sounds at the start. -/
def afterSound? (sounds : List String) (cs : List Char) : Option (List Char) :=
  let found := sounds.filter fun s => s.toList.isPrefixOf cs
  if found.isEmpty then none
  else some (cs.drop (found.foldl (fun n s => max n s.length) 0))

/-- The sounds of a syllable. -/
def isSyllable (cs : List Char) : Bool :=
  ((afterSound? initials cs).bind (afterSound? medials)).bind (afterSound? finals) = some []

/-! ### Names -/

/-- The text is the name of a character. -/
def isName (name : List Char) : Bool :=
  let syllable := "HANGUL SYLLABLE ".toList
  let ideograph := "CJK UNIFIED IDEOGRAPH-".toList
  if syllable.isPrefixOf name then isSyllable (name.drop syllable.length)
  else if ideograph.isPrefixOf name then isIdeograph (name.drop ideograph.length)
  else isListed (name.map Char.toUpper)

end RapidUpload.Text
