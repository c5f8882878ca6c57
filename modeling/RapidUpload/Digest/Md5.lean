import RapidUpload.Number.Power
import RapidUpload.Digest.Basic

/-!
# MD5

The digest of RFC 1321: sixty-four steps over four words, all numbers in little-endian order.
-/

namespace RapidUpload

namespace Md5

/-- The four words. -/
structure State where
  a : UInt32
  b : UInt32
  c : UInt32
  d : UInt32

/-- The starting words. -/
def start : State :=
  ⟨0x67452301, 0xefcdab89, 0x98badcfe, 0x10325476⟩

/-- The constant of each step: the first thirty-two bits after the point of the sine of the
step's number. -/
def sines : Array UInt32 := #[
  0xd76aa478, 0xe8c7b756, 0x242070db, 0xc1bdceee, 0xf57c0faf, 0x4787c62a, 0xa8304613, 0xfd469501,
  0x698098d8, 0x8b44f7af, 0xffff5bb1, 0x895cd7be, 0x6b901122, 0xfd987193, 0xa679438e, 0x49b40821,
  0xf61e2562, 0xc040b340, 0x265e5a51, 0xe9b6c7aa, 0xd62f105d, 0x02441453, 0xd8a1e681, 0xe7d3fbc8,
  0x21e1cde6, 0xc33707d6, 0xf4d50d87, 0x455a14ed, 0xa9e3e905, 0xfcefa3f8, 0x676f02d9, 0x8d2a4c8a,
  0xfffa3942, 0x8771f681, 0x6d9d6122, 0xfde5380c, 0xa4beea44, 0x4bdecfa9, 0xf6bb4b60, 0xbebfbc70,
  0x289b7ec6, 0xeaa127fa, 0xd4ef3085, 0x04881d05, 0xd9d4d039, 0xe6db99e5, 0x1fa27cf8, 0xc4ac5665,
  0xf4292244, 0x432aff97, 0xab9423a7, 0xfc93a039, 0x655b59c3, 0x8f0ccc92, 0xffeff47d, 0x85845dd1,
  0x6fa87e4f, 0xfe2ce6e0, 0xa3014314, 0x4e0811a1, 0xf7537e82, 0xbd3af235, 0x2ad7d2bb, 0xeb86d391]

/-- How far each step of a round of sixteen turns its sum. -/
def turns : Array UInt32 :=
  #[7, 12, 17, 22, 5, 9, 14, 20, 4, 11, 16, 23, 6, 10, 15, 21]

/-- The mixing function of a step and the index of the block's word it takes. -/
def mix (i : Nat) (b c d : UInt32) : UInt32 × Nat :=
  if i < 16 then ((b &&& c) ||| (~~~b &&& d), i)
  else if i < 32 then ((d &&& b) ||| (~~~d &&& c), (5 * i + 1) % 16)
  else if i < 48 then (b ^^^ c ^^^ d, (3 * i + 5) % 16)
  else (c ^^^ (b ||| ~~~d), 7 * i % 16)

/-- One step. -/
def step (block : ByteArray) (s : State) (i : Nat) : State :=
  let (f, g) := mix i s.b s.c s.d
  let sum := s.a + f + sines.getD i 0 + littleEndianAt block (4 * g)
  ⟨s.d, s.b + rotateLeft sum (turns.getD (i / 16 * 4 + i % 4) 0), s.b, s.c⟩

/-- Sixty-four steps, added to the words before them. -/
def compress (s : State) (block : ByteArray) : State :=
  let t := (List.range 64).foldl (step block) s
  ⟨s.a + t.a, s.b + t.b, s.c + t.c, s.d + t.d⟩

/-- The eight bytes of a bit count, the low one first. -/
def lengthBytes (n : Nat) : ByteArray :=
  littleEndian (UInt32.ofNat n) ++ littleEndian (UInt32.ofNat (n / pow2 32))

/-- The sixteen bytes of the words. -/
def output (s : State) : ByteArray :=
  littleEndian s.a ++ littleEndian s.b ++ littleEndian s.c ++ littleEndian s.d

end Md5

/-- MD5. -/
def md5 : BlockDigest Md5.State :=
  ⟨Md5.start, Md5.compress, Md5.lengthBytes, Md5.output⟩

example : md5.hex "abc".toUTF8 = "900150983cd24fb0d6963f7d28e17f72" := by decide +kernel

end RapidUpload
