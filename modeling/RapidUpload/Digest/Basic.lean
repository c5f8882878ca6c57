import RapidUpload.Bytes.Basic
import RapidUpload.Bytes.Hex

/-!
# Digests over blocks

A digest that iterates a compression function over blocks of 64 bytes.  The message is closed
with a one bit, zeros, and its length in bits in the last eight bytes of a block.

* `BlockDigest.digest`: the digest of a whole message.
* `Hasher`: the same digest fed chunk by chunk, with at most one block part kept back.
-/

namespace RapidUpload

/-- A compression function with its starting value, the byte order of the length that closes a
message, and the bytes a last value stands for. -/
structure BlockDigest (σ : Type) where
  start : σ
  compress : σ → ByteArray → σ
  lengthBytes : Nat → ByteArray
  output : σ → ByteArray

namespace BlockDigest

variable {σ : Type}

/-- Bytes in a block. -/
def blockSize : Nat := 64

/-- The block at index `i`. -/
def blockAt (bytes : ByteArray) (i : Nat) : ByteArray :=
  bytes.extract (blockSize * i) (blockSize * i + blockSize)

/-- Compresses the whole blocks of `bytes`, in order. -/
def absorb (D : BlockDigest σ) (s : σ) (bytes : ByteArray) : σ :=
  Nat.fold (bytes.size / blockSize) (fun i _ s => D.compress s (blockAt bytes i)) s

/-- What closes a message of `n` bytes: the length it brings the message to is a multiple of the
block size. -/
def closing (D : BlockDigest σ) (n : Nat) : ByteArray :=
  ByteArray.replicate 1 0x80 ++ ByteArray.replicate ((119 - n % blockSize) % blockSize) 0
    ++ D.lengthBytes (8 * n)

/-- The digest of a message. -/
def digest (D : BlockDigest σ) (message : ByteArray) : ByteArray :=
  D.output (D.absorb D.start (message ++ D.closing message.size))

/-- The digest of a message in hexadecimal. -/
def hex (D : BlockDigest σ) (message : ByteArray) : String :=
  Hex.encode (D.digest message)

end BlockDigest

/-- A digest under way: the value after the whole blocks so far, the bytes after them, and the
count of all bytes. -/
structure Hasher (σ : Type) where
  state : σ
  tail : ByteArray
  length : Nat

namespace Hasher

variable {σ : Type}

/-- Nothing hashed yet. -/
def new (D : BlockDigest σ) : Hasher σ :=
  ⟨D.start, .empty, 0⟩

/-- Takes in a chunk of any size. -/
def update (D : BlockDigest σ) (h : Hasher σ) (chunk : ByteArray) : Hasher σ :=
  let bytes := h.tail ++ chunk
  { state := D.absorb h.state bytes
    tail := bytes.since (bytes.size / BlockDigest.blockSize * BlockDigest.blockSize)
    length := h.length + chunk.size }

/-- The digest of all bytes so far; the hasher itself is left as it is. -/
def digest (D : BlockDigest σ) (h : Hasher σ) : ByteArray :=
  D.output (D.absorb h.state (h.tail ++ D.closing h.length))

/-- The digest of all bytes so far, in hexadecimal. -/
def hex (D : BlockDigest σ) (h : Hasher σ) : String :=
  Hex.encode (h.digest D)

end Hasher

/-- The four bytes of a word, the high one first. -/
def bigEndian (w : UInt32) : ByteArray :=
  ⟨#[(w >>> 24).toUInt8, (w >>> 16).toUInt8, (w >>> 8).toUInt8, w.toUInt8]⟩

/-- The four bytes of a word, the low one first. -/
def littleEndian (w : UInt32) : ByteArray :=
  ⟨#[w.toUInt8, (w >>> 8).toUInt8, (w >>> 16).toUInt8, (w >>> 24).toUInt8]⟩

/-- The word whose four bytes start at `i`, the high one first. -/
def bigEndianAt (b : ByteArray) (i : Nat) : UInt32 :=
  ((b.octet i).toUInt32 <<< 24) ||| ((b.octet (i + 1)).toUInt32 <<< 16)
    ||| ((b.octet (i + 2)).toUInt32 <<< 8) ||| (b.octet (i + 3)).toUInt32

/-- The word whose four bytes start at `i`, the low one first. -/
def littleEndianAt (b : ByteArray) (i : Nat) : UInt32 :=
  (b.octet i).toUInt32 ||| ((b.octet (i + 1)).toUInt32 <<< 8)
    ||| ((b.octet (i + 2)).toUInt32 <<< 16) ||| ((b.octet (i + 3)).toUInt32 <<< 24)

/-- The bits of a word moved up by `n`, those that leave at the top entering below. -/
def rotateLeft (w n : UInt32) : UInt32 :=
  (w <<< n) ||| (w >>> (32 - n))

end RapidUpload
