import RapidUpload.Http.Certificate.Block
import RapidUpload.Http.Certificate.Key

/-!
# Certificates in files

A file of certificates holds them in blocks, beside lists of those that are revoked and private
keys.  A block that cannot be read spoils the file; one with any other label is not looked into.

* `Certificate.standsIn`: the file holds a certificate or a list, and all it holds can be read.
-/

namespace RapidUpload.Certificate

open Element

/-! ### Names -/

/-- The tags of the texts in names. -/
def textTags : List Nat := [3, 7, 8, 9, 11, 12, 13, 14, 15, 16, 18, 19, 20, 22, 28, 29, 30]

/-- Bytes that are text in UTF-8. -/
def isUtf8 (bytes : List UInt8) : Bool := ByteArray.validateUTF8 ⟨bytes.toArray⟩

/-- Characters of so many bytes each. -/
def areCharacters (width : Nat) : Nat → List UInt8 → Bool
  | 0, bytes => bytes.isEmpty
  | fuel + 1, bytes =>
    bytes.isEmpty
      || (width ≤ bytes.length && (Element.number (bytes.take width)).isValidChar
        && areCharacters width fuel (bytes.drop width))

/-- A text in a name. -/
def nameText : Field :=
  ⟨false, fun h => h.owner = 0 ∧ textTags.contains h.tag, fun h =>
    match h.tag with
    | 12 => text isUtf8 h
    | 28 => text (fun bytes => areCharacters 4 bytes.length bytes) h
    | 30 => text (fun bytes => areCharacters 2 bytes.length bytes) h
    | tag => contentOf tag h⟩

/-- Who a certificate is about. -/
def party : Field := rowOf (setOf (rowField [name, nameText]))

/-! ### Certificates and lists -/

/-- A point in time, in either form. -/
def time : Field :=
  ⟨false, fun h => h.owner = 0 ∧ (h.tag = 23 ∨ h.tag = 24), octets.content⟩

/-- Something more that is said. -/
def extra : Field := rowField [name, truth.maybe, octets]

/-- What is signed, how, and the signature. -/
def signed (content : Field) : Field := rowField [content, algorithm, bits]

/-- A certificate. -/
def certificate : Field :=
  signed (rowField [
    (ownField 0 (wrapped integer)).maybe, integer, algorithm, party, rowField [time, time], party,
    rowField [algorithm, bits], (ownField 1 bits.content).maybe, (ownField 2 bits.content).maybe,
    (ownField 3 (wrapped (rowOf extra))).maybe])

/-- A list of certificates that are revoked. -/
def revocations : Field :=
  signed (rowField [
    integer.maybe, algorithm, party, time, time.maybe,
    (rowOf (rowField [integer, time, (rowOf extra).maybe])).maybe,
    (ownField 0 (wrapped (rowOf extra))).maybe])

/-- What a certificate is trusted for. -/
def trust : Field :=
  rowField [
    (rowOf name).maybe, (ownField 0 (many name)).maybe, (field 12 octets.content).maybe,
    octets.maybe, (ownField 1 (many algorithm)).maybe]

/-- A certificate, and what it is trusted for if anything follows. -/
def isTrusted (bytes : List UInt8) : Bool :=
  (readFields [certificate] bytes).any fun rest => rest.isEmpty || startsWith trust rest

/-! ### Files -/

/-- The block holds a certificate or a list. -/
def counts (b : Block) : Bool :=
  ["CERTIFICATE", "X509 CERTIFICATE", "TRUSTED CERTIFICATE", "X509 CRL"].any (ascii · = b.label)

/-- What the block holds can be read; what is locked cannot, but for a key. -/
def isReadable (b : Block) : Bool :=
  if b.label = ascii "CERTIFICATE" ∨ b.label = ascii "X509 CERTIFICATE" then
    b.notes.isEmpty && startsWith certificate b.bytes
  else if b.label = ascii "TRUSTED CERTIFICATE" then b.notes.isEmpty && isTrusted b.bytes
  else if b.label = ascii "X509 CRL" then b.notes.isEmpty && startsWith revocations b.bytes
  else
    match Key.kindOf? b.label with
    | some kind =>
      if b.notes.isEmpty then kind.isRead b.bytes else Key.isLocked b.notes
    | none => true

/-- The file holds a certificate or a list, and all it holds can be read. -/
def standsIn (bytes : ByteArray) : Bool :=
  (blocksOf? bytes.data.toList).any fun blocks => blocks.any counts && blocks.all isReadable

end RapidUpload.Certificate
