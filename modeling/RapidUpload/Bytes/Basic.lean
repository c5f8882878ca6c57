/-!
# Bytes

What the library needs of byte arrays beyond the core operations: an octet with a default past
the end, and a window that stops where the bytes do.

* `ByteArray.octet b i`: the byte at `i`, zero past the end.
* `ByteArray.window b i n`: the bytes from `i` on, at most `n` of them.
-/

namespace ByteArray

/-- The byte at `i`, zero past the end. -/
def octet (b : ByteArray) (i : Nat) : UInt8 :=
  if h : i < b.size then b[i] else 0

/-- The bytes from `i` on, at most `n` of them. -/
def window (b : ByteArray) (i n : Nat) : ByteArray :=
  b.extract i (min (i + n) b.size)

/-- The bytes from `i` on. -/
def since (b : ByteArray) (i : Nat) : ByteArray :=
  b.extract i b.size

/-- `n` bytes, all of them `x`. -/
def replicate (n : Nat) (x : UInt8) : ByteArray :=
  ⟨Array.replicate n x⟩

theorem size_window (b : ByteArray) (i n : Nat) :
    (b.window i n).size = min n (b.size - i) := by
  simp only [window, ByteArray.size_extract]
  omega

theorem size_since (b : ByteArray) (i : Nat) : (b.since i).size = b.size - i := by
  simp [since, ByteArray.size_extract]

end ByteArray
