import RapidUpload.Bytes.Base64

/-!
# Blocks of base64 in a file

A block stands between a line that begins it and one that ends it, each with its label.  Between
them are lines of base64, after notes about the block and a blank line, if there are notes.  What
stands outside the blocks is passed over.

* `Certificate.lines`: the lines of a file.
* `Certificate.blocks?`: the blocks of the lines, unless one of them is broken.
-/

namespace RapidUpload.Certificate

/-! ### Lines -/

/-- The most bytes of a line; a longer one goes on in the next. -/
def lineLimit : Nat := 254

/-- A line, and whether the next one goes on with it. -/
structure Line where
  bytes : List UInt8
  goesOn : Bool

/-- The bytes of a text in ASCII. -/
def ascii (s : String) : List UInt8 := s.toList.map fun c => UInt8.ofNat c.toNat

/-- The lines of a file; `fuel` bounds them. A line ends at a NUL in it, and the file at one that
stands at the start of a line. -/
def lines : Nat → List UInt8 → List Line
  | 0, _ => []
  | fuel + 1, bytes =>
    let line := (bytes.take lineLimit).takeWhile (· != 10)
    if bytes.isEmpty || line.head? = some 0 then []
    else
      let goesOn := line.length = lineLimit && !line.contains 0
      let rest := bytes.drop (if line.length = lineLimit then line.length else line.length + 1)
      ⟨line.takeWhile (· != 0), goesOn⟩ :: lines fuel rest

/-- The bytes without those at the end that are no visible ASCII. -/
def trimEnd (bytes : List UInt8) : List UInt8 :=
  (bytes.reverse.dropWhile fun b => b ≤ 32 || 128 ≤ b).reverse

/-- The bytes without the mark of UTF-8 before them. -/
def withoutMark : List UInt8 → List UInt8
  | 0xef :: 0xbb :: 0xbf :: rest => rest
  | bytes => bytes

/-! ### Blocks -/

/-- A block. -/
structure Block where
  label : List UInt8
  notes : List (List UInt8)
  bytes : List UInt8

/-- What follows a row of bytes at the start of others. -/
def after? (start bytes : List UInt8) : Option (List UInt8) :=
  if start.isPrefixOf bytes then some (bytes.drop start.length) else none

/-- The dashes around a label. -/
def fence : List UInt8 := ascii "-----"

/-- The label of a line that begins a block. -/
def labelOf? (line : List UInt8) : Option (List UInt8) := do
  let rest ← after? (ascii "-----BEGIN ") line
  if fence.isSuffixOf rest then some (rest.take (rest.length - fence.length)) else none

/-- The label of the next block and the lines after the one that begins it. The first line may
have a mark before it. -/
def begun? (isFirst : Bool) : List Line → Option (List UInt8 × List Line)
  | [] => none
  | line :: rest =>
    match labelOf? (trimEnd (if isFirst then withoutMark line.bytes else line.bytes)) with
    | some label => some (label, rest)
    | none => begun? false rest

/-- May stand between the characters of base64. -/
def isGap (b : UInt8) : Bool := b == 9 || b == 10 || b == 13 || b == 32

/-- The bytes that lines of base64 stand for, at least one. A dash ends the base64. -/
def decode? (lines : List (List UInt8)) : Option (List UInt8) := do
  let chars := (lines.flatten.takeWhile (· != 45)).filter fun b => !isGap b
  let bytes ← Base64.decodeChars? (chars.map fun b => Char.ofNat b.toNat)
  if bytes.isEmpty then none else return bytes

/-- What a block has come to. -/
inductive Place where
  /-- Notes or base64. -/
  | unsure
  | notes
  /-- Base64 after notes; whether a line was short, which only the last one may be. -/
  | base64 (short : Bool)
deriving DecidableEq

/-- The characters of a line of base64 after notes. -/
def lineWidth : Nat := 64

/-- A block and the lines after it, from the lines after its first one on. What was read of it are
the lines before a blank one and those after it, the last one first. -/
def inside? (label : List UInt8) (place : Place) (before after : List (List UInt8))
    (goesOn : Bool) : List Line → Option (Block × List Line)
  | [] => none
  | line :: rest =>
    let bytes := trimEnd line.bytes
    let place := if place = .unsure ∧ line.bytes.contains 58 then .notes else place
    if bytes.isEmpty then
      match goesOn, place with
      | true, _ => inside? label place before after line.goesOn rest
      | false, .base64 _ => none
      | false, _ => inside? label (.base64 false) before after line.goesOn rest
    else
      match after? (ascii "-----END ") bytes, place with
      | some ending, _ => do
        let (notes, body) := if place = .unsure then ([], before) else (before, after)
        let bytes ← decode? body.reverse
        if ending = label ++ fence then return (⟨label, notes.reverse, bytes⟩, rest) else none
      | none, .base64 short =>
        if short || lineWidth < bytes.length then none
        else
          inside? label (.base64 (bytes.length < lineWidth)) before (bytes :: after) line.goesOn
            rest
      | none, _ => inside? label place (bytes :: before) after line.goesOn rest

/-- The blocks of the lines; `fuel` bounds them. -/
def blocks? : Nat → List Line → Option (List Block)
  | 0, _ => some []
  | fuel + 1, lines =>
    match begun? true lines with
    | none => some []
    | some (label, rest) => do
      let (block, rest) ← inside? label .unsure [] [] false rest
      return block :: (← blocks? fuel rest)

/-- The blocks of a file. -/
def blocksOf? (bytes : List UInt8) : Option (List Block) :=
  let lines := lines bytes.length bytes
  blocks? lines.length lines

end RapidUpload.Certificate
