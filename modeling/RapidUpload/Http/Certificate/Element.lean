/-!
# Elements

Signed data is made of elements: a tag, a size and a content, which may be a row of elements in
turn.  A content without a size ends at a mark of two zeros.

* `Element.header?`: the start of an element.
* `Element.row`, `Element.many`: elements that hold others.
* `Element.any`: an element of any kind.
-/

namespace RapidUpload.Element

/-! ### Starts of elements -/

/-- The start of an element. -/
structure Header where
  /-- Whose tag it is: zero for the kinds that are the same everywhere. -/
  owner : Nat
  tag : Nat
  /-- The content is a row of elements. -/
  isRow : Bool
  /-- The bytes of the content, unless a mark ends it. -/
  size : Option Nat

/-- A tag of a structure's own. -/
def ownOwner : Nat := 2

/-- The most that a long tag may have come to before its last digit. -/
def tagLimit : Nat := 16777215

/-- A tag in digits of seven bits after those read, and what follows it. -/
def longTag? (read : Nat) : List UInt8 → Option (Nat × List UInt8)
  | [] => none
  | b :: rest =>
    let tag := 128 * read + b.toNat % 128
    if b < 128 then some (tag, rest)
    else if tagLimit < tag then none
    else longTag? tag rest

/-- The number that bytes stand for, the highest first. -/
def number (bytes : List UInt8) : Nat := bytes.foldl (fun n b => 256 * n + b.toNat) 0

/-- A size at the start, none standing for a mark at the end, and what follows it. -/
def size? : List UInt8 → Option (Option Nat × List UInt8)
  | [] => none
  | b :: rest =>
    if b < 128 then some (some b.toNat, rest)
    else if b = 128 then some (none, rest)
    else
      let width := b.toNat - 128
      if rest.length ≤ width then none
      else some (some (number (rest.take width)), rest.drop width)

/-- The start of an element, and what follows it: all of its content at least. -/
def header? : List UInt8 → Option (Header × List UInt8)
  | [] => none
  | b :: rest => do
    let (tag, rest) ← if b.toNat % 32 = 31 then longTag? 0 rest else some (b.toNat % 32, rest)
    let (size, rest) ← size? rest
    let isRow := b.toNat / 32 % 2 = 1
    if size.any (rest.length < ·) || (size.isNone && !isRow) then none
    else return (⟨b.toNat / 64, tag, isRow, size⟩, rest)

/-- The mark that ends a content without a size. -/
def endMark : List UInt8 := [0, 0]

/-- Nothing is left of a content. -/
def isOver (bytes : List UInt8) : Bool := bytes.isEmpty || endMark.isPrefixOf bytes

/-! ### Contents -/

/-- Reads the content of an element, after its start, and leaves what follows it. -/
abbrev Content := Header → List UInt8 → Option (List UInt8)

/-- A content that `inner` reads to its end. -/
def whole (inner : List UInt8 → Option (List UInt8)) : Content := fun h bytes =>
  match h.size with
  | some n => if inner (bytes.take n) = some [] then some (bytes.drop n) else none
  | none => do
    let rest ← inner bytes
    if endMark.isPrefixOf rest then some (rest.drop endMark.length) else none

/-- An element of a row. -/
structure Field where
  optional : Bool
  isAt : Header → Bool
  content : Content

/-- The elements of a row, in their order. -/
def readFields : List Field → List UInt8 → Option (List UInt8)
  | [], bytes => some bytes
  | f :: fields, bytes =>
    if isOver bytes then if f.optional then readFields fields bytes else none
    else do
      let (h, rest) ← header? bytes
      if f.isAt h then readFields fields (← f.content h rest)
      else if f.optional then readFields fields bytes
      else none

/-- A row of elements. -/
def row (fields : List Field) : Content := fun h bytes =>
  if h.isRow then whole (readFields fields) h bytes else none

/-- Elements of one kind; `fuel` bounds them. -/
def readAll (f : Field) : Nat → List UInt8 → Option (List UInt8)
  | 0, bytes => some bytes
  | fuel + 1, bytes =>
    if isOver bytes then some bytes
    else do
      let (h, rest) ← header? bytes
      if f.isAt h then readAll f fuel (← f.content h rest) else none

/-- Any number of elements of one kind. -/
def many (f : Field) : Content := fun h bytes =>
  whole (readAll f bytes.length) h bytes

/-- A content of bytes alone. -/
def plain (isValid : List UInt8 → Bool) : Content := fun h bytes =>
  match h.isRow, h.size with
  | false, some n => if isValid (bytes.take n) then some (bytes.drop n) else none
  | _, _ => none

/-- How often pieces may be in pieces themselves. -/
def pieceDepth : Nat := 5

/-- The bytes of pieces, and what follows them; `fuel` bounds the pieces. -/
def pieces? : Nat → Nat → List UInt8 → Option (List UInt8 × List UInt8)
  | 0, _, _ => none
  | fuel + 1, depth, bytes =>
    if isOver bytes then some ([], bytes)
    else do
      let (h, rest) ← header? bytes
      let (piece, rest) ← match h.isRow, depth, h.size with
        | false, _, some n => some (rest.take n, rest.drop n)
        | true, depth + 1, some n => do
          let (piece, left) ← pieces? fuel depth (rest.take n)
          if left.isEmpty then some (piece, rest.drop n) else none
        | true, depth + 1, none => do
          let (piece, left) ← pieces? fuel depth rest
          if left.isEmpty then none else some (piece, left.drop endMark.length)
        | _, _, _ => none
      let (more, rest) ← pieces? fuel depth rest
      return (piece ++ more, rest)

/-- A content of bytes, which may be in pieces. -/
def text (isValid : List UInt8 → Bool) : Content := fun h bytes =>
  if !h.isRow then plain isValid h bytes
  else
    let isWhole (bytes : List UInt8) : Option (List UInt8) := do
      let (text, rest) ← pieces? (bytes.length + 1) pieceDepth bytes
      if isValid text then some rest else none
    whole isWhole h bytes

/-- What follows so many contents that marks end; `fuel` bounds the elements. -/
def pastMarks? : Nat → Nat → List UInt8 → Option (List UInt8)
  | 0, _, _ => none
  | _, 0, bytes => some bytes
  | fuel + 1, opened + 1, bytes =>
    if endMark.isPrefixOf bytes then pastMarks? fuel opened (bytes.drop endMark.length)
    else do
      let (h, rest) ← header? bytes
      match h.size with
      | some n => pastMarks? fuel (opened + 1) (rest.drop n)
      | none => pastMarks? fuel (opened + 2) rest

/-- A content that is passed over. -/
def past : Content := fun h bytes =>
  match h.size with
  | some n => some (bytes.drop n)
  | none => pastMarks? (bytes.length + 1) 1 bytes

/-! ### Kinds of elements -/

/-- Every number of a name of numbers is written in full and without needless zeros. -/
def isName (bytes : List UInt8) : Bool :=
  bytes.getLast?.any (· < 128) && bytes.head? != some 128
    && (bytes.zip (bytes.drop 1)).all fun (b, c) => 128 ≤ b || c != 128

/-- An integer in as few bytes as it takes. -/
def isInteger : List UInt8 → Bool
  | [] => false
  | [_] => true
  | b :: c :: _ => !(b == 0 && c < 128) && !(b == 255 && 128 ≤ c)

/-- Bits: how many of the last byte do not count, and the bytes. -/
def isBits (bytes : List UInt8) : Bool := bytes.head?.any (· ≤ 7)

/-- The elements of one tag. -/
def field (tag : Nat) (content : Content) : Field :=
  ⟨false, fun h => h.owner = 0 ∧ h.tag = tag, content⟩

/-- The elements of a tag of the structure's own. -/
def ownField (tag : Nat) (content : Content) : Field :=
  ⟨false, fun h => h.owner = ownOwner ∧ h.tag = tag, content⟩

/-- An element inside another one. -/
def wrapped (f : Field) : Content := row [f]

/-- May be missing. -/
def Field.maybe (f : Field) : Field := { f with optional := true }

/-- A truth value. -/
def truth : Field := field 1 (plain (·.length = 1))

/-- An integer. -/
def integer : Field := field 2 (plain isInteger)

/-- A row of bits. -/
def bits : Field := field 3 (text isBits)

/-- A row of bytes. -/
def octets : Field := field 4 (text fun _ => true)

/-- A name of numbers. -/
def name : Field := field 6 (plain isName)

/-- The content of an element by its tag. -/
def contentOf (tag : Nat) : Content :=
  match tag with
  | 1 => truth.content
  | 2 | 10 => integer.content
  | 3 => bits.content
  | 5 => plain List.isEmpty
  | 6 => name.content
  | 16 | 17 => fun h bytes => if h.isRow then past h bytes else none
  | 28 => text fun bytes => bytes.length % 4 = 0
  | 30 => text fun bytes => bytes.length % 2 = 0
  | _ => octets.content

/-- An element of any kind. -/
def any : Field :=
  ⟨false, fun _ => true, fun h bytes =>
    if h.owner = 0 then contentOf h.tag h bytes else past h bytes⟩

/-- A row. -/
def rowField (fields : List Field) : Field := field 16 (row fields)

/-- A row of elements of one kind. -/
def rowOf (f : Field) : Field := field 16 (many f)

/-- A set of elements of one kind. -/
def setOf (f : Field) : Field := field 17 (many f)

/-- The bytes start with an element. -/
def startsWith (f : Field) (bytes : List UInt8) : Bool := (readFields [f] bytes).isSome

end RapidUpload.Element
