import RapidUpload.Text.Blank

/-!
# Words

Texts cut into parts: between characters of a kind, or between spaces.
-/

namespace RapidUpload.Text

/-- The parts between the characters of a kind; two that stand side by side have an empty part
between them. -/
def divide (p : Char → Bool) : List Char → List (List Char)
  | [] => [[]]
  | c :: rest =>
    match p c, divide p rest with
    | true, parts => [] :: parts
    | false, part :: parts => (c :: part) :: parts
    | false, [] => [[c]]

/-- Drops the characters of a kind at both ends. -/
def trim (p : Char → Bool) (cs : List Char) : List Char :=
  ((cs.dropWhile p).reverse.dropWhile p).reverse

/-- Stands between words: a blank character or a separator of records. -/
def isSpace (c : Char) : Bool :=
  isBlank c || (0x1c ≤ c.toNat && c.toNat ≤ 0x1f)

/-- The words of a text. -/
def words (cs : List Char) : List String :=
  ((divide isSpace cs).filter fun part => !part.isEmpty).map String.ofList

end RapidUpload.Text
