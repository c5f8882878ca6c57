import RapidUpload.Bytes.Hex
import RapidUpload.Http.Certificate.Block
import RapidUpload.Http.Certificate.Element

/-!
# Private keys in files

A private key is a row of numbers of its own kind, or stands wrapped with the name of its kind.
One that is locked is only noted to be so, and is not looked into.

* `Key.kindOf?`: the kind of key that a label asks for, if it is that of a key.
* `Key.Kind.isRead`: bytes hold a key of a kind.
-/

namespace RapidUpload

open Element

namespace Certificate

/-- How something is signed or locked. -/
def algorithm : Field := rowField [name, any.maybe]

end Certificate

namespace Key

/-! ### Kinds of keys -/

/-- The kind of key a label asks for. -/
inductive Kind where
  /-- Any kind of key. -/
  | every
  /-- Any kind of key, locked. -/
  | locked
  | rsa | pss | dsa | dh | dhx | curve | ed25519 | ed448 | x25519 | x448
deriving DecidableEq

/-- The words before a label of a key, for the kinds that go by one. -/
def words : List (String × Kind) := [
  ("RSA", .rsa), ("RSA-PSS", .pss), ("DSA", .dsa), ("DH", .dh), ("X9.42 DH", .dhx),
  ("EC", .curve), ("ED25519", .ed25519), ("ED448", .ed448), ("X25519", .x25519), ("X448", .x448)]

/-- The kind of key that a label asks for, if it is that of a key. -/
def kindOf? (label : List UInt8) : Option Kind :=
  if label = Certificate.ascii "ENCRYPTED PRIVATE KEY" then some .locked
  else if (Certificate.ascii "PRIVATE KEY").isSuffixOf label then
    some <| (words.find? fun (w, _) => Certificate.ascii (w ++ " PRIVATE KEY") = label).elim .every
      (·.2)
  else none

/-! ### Keys -/

/-- A number of any size, which need not be written short. -/
def number : Field := field 2 (plain fun _ => true)

/-- The numbers of a key for factoring. -/
def factors : Field :=
  rowField (integer :: List.replicate 8 number ++
    [(rowOf (rowField [number, number, number])).maybe])

/-- The names of the curves that are known, each family with its last numbers. -/
def curves : List (List UInt8 × List UInt8) := [
  ([0x2a, 0x86, 0x48, 0xce, 0x3d, 3, 1], [1, 2, 3, 4, 5, 6, 7]),
  ([0x2b, 0x81, 4, 0],
    [1, 2, 3, 4, 5, 6, 7, 8, 9, 10, 15, 16, 17, 22, 23, 24, 25, 26, 27, 28, 29, 30, 31, 32, 33, 34,
      35, 36, 37, 38, 39]),
  ([0x2b, 0x24, 3, 3, 2, 8, 1, 1], [1, 2, 3, 4, 5, 6, 7, 8, 9, 10, 11, 12, 13, 14])]

/-- The name of a curve that is known. -/
def isCurve (name : List UInt8) : Bool :=
  curves.any fun (family, last) => last.any fun b => name = family ++ [b]

/-- A curve, by its name or by its numbers. -/
def curve : Field :=
  ⟨false, fun h => h.owner = 0 ∧ (h.tag = 6 ∨ h.tag = 16), fun h =>
    if h.tag = 6 then plain isCurve h else any.content h⟩

/-- A key on a curve, where the curve may be named outside of it. -/
def point (isNamed : Bool) : Field :=
  let within := ownField 0 (wrapped curve)
  rowField [integer, octets, if isNamed then within.maybe else within,
    (ownField 1 (wrapped bits)).maybe]

/-- A row of so many bytes. -/
def bytesOf (n : Nat) : Field := field 4 (plain (·.length = n))

/-- A row of bytes that hold an element. -/
def holding (f : Field) : Field := field 4 (text (startsWith f))

/-- A name of numbers. -/
def named (bytes : List UInt8) : Field := field 6 (plain (· = bytes))

/-- A key that stands wrapped with its name and what is said of it. -/
def wrappedKey (algorithm : List Field) (key : Field) : Field :=
  rowField [integer, rowField algorithm, key, (ownField 0 past).maybe, (ownField 1 past).maybe]

/-- The forms of a key of a kind. -/
def Kind.forms : Kind → List Field
  | .rsa =>
    [factors,
      wrappedKey [named [0x2a, 0x86, 0x48, 0x86, 0xf7, 0x0d, 1, 1, 1], any.maybe]
        (holding factors)]
  | .pss =>
    [wrappedKey [named [0x2a, 0x86, 0x48, 0x86, 0xf7, 0x0d, 1, 1, 10], any.maybe]
      (holding factors)]
  | .dsa =>
    [rowField (integer :: List.replicate 5 number),
      wrappedKey [named [0x2a, 0x86, 0x48, 0xce, 0x38, 4, 1], rowField [number, number, number]]
        (holding integer)]
  | .dh =>
    [wrappedKey [named [0x2a, 0x86, 0x48, 0x86, 0xf7, 0x0d, 1, 3, 1],
      rowField [number, number, integer.maybe]] (holding integer)]
  | .dhx =>
    [wrappedKey [named [0x2a, 0x86, 0x48, 0xce, 0x3e, 2, 1],
      rowField [number, number, number, number.maybe, any.maybe]] (holding integer)]
  | .curve =>
    [point false,
      wrappedKey [named [0x2a, 0x86, 0x48, 0xce, 0x3d, 2, 1], Key.curve] (holding (point true))]
  | .x25519 => [wrappedKey [named [0x2b, 0x65, 0x6e]] (holding (bytesOf 32))]
  | .x448 => [wrappedKey [named [0x2b, 0x65, 0x6f]] (holding (bytesOf 56))]
  | .ed25519 => [wrappedKey [named [0x2b, 0x65, 0x70]] (holding (bytesOf 32))]
  | .ed448 => [wrappedKey [named [0x2b, 0x65, 0x71]] (holding (bytesOf 57))]
  | .every | .locked => []

/-- The bytes hold a key of a kind. -/
def Kind.isRead (kind : Kind) (bytes : List UInt8) : Bool :=
  match kind with
  | .locked => true
  | .every => words.any fun (_, k) => k.forms.any (startsWith · bytes)
  | kind => kind.forms.any (startsWith · bytes)

/-! ### Notes on locked keys -/

/-- The ciphers that go with blocks, each with the bytes of its first one. -/
def ciphers : List (String × Nat) := [
  ("DES-CBC", 8), ("DES-EDE-CBC", 8), ("DES-EDE3-CBC", 8), ("DESX-CBC", 8), ("RC2-CBC", 8),
  ("BF-CBC", 8), ("CAST5-CBC", 8), ("IDEA-CBC", 8), ("SEED-CBC", 16), ("AES-128-CBC", 16),
  ("AES-192-CBC", 16), ("AES-256-CBC", 16), ("CAMELLIA-128-CBC", 16), ("CAMELLIA-192-CBC", 16),
  ("CAMELLIA-256-CBC", 16), ("ARIA-128-CBC", 16), ("ARIA-192-CBC", 16), ("ARIA-256-CBC", 16)]

/-- The characters of a note. -/
def characters (note : List UInt8) : List Char := note.map fun b => Char.ofNat b.toNat

/-- What follows a word and the blanks after it. -/
def afterWord? (word : String) (cs : List Char) : Option (List Char) :=
  if word.toList.isPrefixOf cs then
    some ((cs.drop word.length).dropWhile fun c => c == ' ' || c == '\t')
  else none

/-- The notes say that the key is locked, and by which cipher. -/
def isLocked : List (List UInt8) → Bool
  | kind :: cipher :: _ =>
    let isKind := ((afterWord? "Proc-Type:" (characters kind)).bind (afterWord? "4,")).any
      (· = "ENCRYPTED".toList)
    let isCipher := (afterWord? "DEK-Info:" (characters cipher)).any fun cs =>
      let word := cs.takeWhile fun c => c != ' ' && c != '\t' && c != ','
      let rest := (cs.drop word.length).dropWhile fun c => c == ' ' || c == '\t'
      (ciphers.lookup (String.ofList word).toUpper).any fun n =>
        rest.head? = some ',' && 2 * n ≤ ((rest.drop 1).takeWhile (Hex.value? · |>.isSome)).length
    isKind && isCipher
  | _ => false

end Key

end RapidUpload
