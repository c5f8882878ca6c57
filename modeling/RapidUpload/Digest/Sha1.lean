import RapidUpload.Number.Power
import RapidUpload.Digest.Basic

/-!
# SHA-1

The digest of FIPS 180: eighty rounds over five words, all numbers in big-endian order.
-/

namespace RapidUpload

namespace Sha1

/-- The five words. -/
structure State where
  a : UInt32
  b : UInt32
  c : UInt32
  d : UInt32
  e : UInt32

/-- The starting words. -/
def start : State :=
  ⟨0x67452301, 0xefcdab89, 0x98badcfe, 0x10325476, 0xc3d2e1f0⟩

/-- The eighty words of a block: its own sixteen, then each a rotated sum of four before it. -/
def schedule (block : ByteArray) : Array UInt32 :=
  let own := (List.range 16).foldl (fun w i => w.push (bigEndianAt block (4 * i))) #[]
  (List.range 64).foldl (fun w i =>
    let mixed := w.getD (i + 13) 0 ^^^ w.getD (i + 8) 0 ^^^ w.getD (i + 2) 0 ^^^ w.getD i 0
    w.push (rotateLeft mixed 1))
    own

/-- The mixing function of a round and its constant. -/
def mix (round : Nat) (b c d : UInt32) : UInt32 × UInt32 :=
  if round < 20 then ((b &&& c) ||| (~~~b &&& d), 0x5a827999)
  else if round < 40 then (b ^^^ c ^^^ d, 0x6ed9eba1)
  else if round < 60 then ((b &&& c) ||| (b &&& d) ||| (c &&& d), 0x8f1bbcdc)
  else (b ^^^ c ^^^ d, 0xca62c1d6)

/-- One round. -/
def step (w : Array UInt32) (s : State) (round : Nat) : State :=
  let (f, k) := mix round s.b s.c s.d
  ⟨rotateLeft s.a 5 + f + s.e + k + w.getD round 0, s.a, rotateLeft s.b 30, s.c, s.d⟩

/-- Eighty rounds, added to the words before them. -/
def compress (s : State) (block : ByteArray) : State :=
  let t := (List.range 80).foldl (step (schedule block)) s
  ⟨s.a + t.a, s.b + t.b, s.c + t.c, s.d + t.d, s.e + t.e⟩

/-- The eight bytes of a bit count, the high one first. -/
def lengthBytes (n : Nat) : ByteArray :=
  bigEndian (UInt32.ofNat (n / pow2 32)) ++ bigEndian (UInt32.ofNat n)

/-- The twenty bytes of the words. -/
def output (s : State) : ByteArray :=
  bigEndian s.a ++ bigEndian s.b ++ bigEndian s.c ++ bigEndian s.d ++ bigEndian s.e

end Sha1

/-- SHA-1. -/
def sha1 : BlockDigest Sha1.State :=
  ⟨Sha1.start, Sha1.compress, Sha1.lengthBytes, Sha1.output⟩

example : sha1.hex "abc".toUTF8 = "a9993e364706816aba3e25717850c26c9cd0d89d" := by decide +kernel

end RapidUpload
