import RapidUpload.Text.Half
import RapidUpload.Text.Word

/-!
# Paths

Texts that name a place on a disk, part by part.

* `Path.normal`: the text with single slashes and without parts that stay in place.
* `Path.lastName`: the last part.
* `Path.climb`: the parts with the steps upward carried out.
-/

namespace RapidUpload.Path

/-- The parts of a path without the empty ones and those that stay in place. -/
def parts (path : String) : List String :=
  ((Text.divide (· == '/') path.toList).map String.ofList).filter fun p => p != "" && p != "."

/-- The slashes a path starts with that matter: exactly two are kept, more count as one. -/
def root (path : String) : String :=
  match path.toList with
  | '/' :: '/' :: '/' :: _ => "/"
  | '/' :: '/' :: _ => "//"
  | '/' :: _ => "/"
  | _ => ""

/-- The text with single slashes and without parts that stay in place; a path of no parts is the
place itself. -/
def normal (path : String) : String :=
  let text := root path ++ String.intercalate "/" (parts path)
  if text = "" then "." else text

/-- The last part of a path, empty when it has none. -/
def lastName (path : String) : String :=
  (parts path).getLastD ""

/-- Drops a part at each step upward, and the step where nothing is left to drop. -/
def climb (parts : List String) : List String :=
  (parts.foldl (fun done p => if p = ".." then done.tail else p :: done) []).reverse

/-- Holds half of a pair; but a second half below `0xdd00` stands for a byte that is no text. -/
def hasHalf (path : String) : Bool :=
  (Text.codes path.toList).any fun n => Text.isHalf n && (n < 0xdc80 || 0xdd00 ≤ n)

/-- The bytes of a path: a half that stands for a byte is one. -/
def byteSize (path : String) : Nat :=
  (Text.codes path.toList).foldl
    (fun size n => size + if Text.isHalf n then 1 else (Char.ofNat n).utf8Size) 0

/-- A path no disk can follow: a NUL or half of a pair stands in it. -/
def isBroken (path : String) : Bool := hasHalf path || path.toList.contains '\x00'

/-- Names a folder by its end: a slash, or a part that stays in place. -/
def namesFolder (path : String) : Bool :=
  match (Text.divide (· == '/') path.toList).getLast? with
  | some last => last == [] || last == ['.']
  | none => false

/-- Starts at the top of the disk. -/
def isAbsolute (path : String) : Bool := root path != ""

end RapidUpload.Path
