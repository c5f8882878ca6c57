import RapidUpload.Number.Size
import RapidUpload.Digest.Md5
import RapidUpload.Bytes.Base64
import RapidUpload.Reader.Basic
import RapidUpload.Spill
import RapidUpload.Text.Half

/-!
# Proofs of possession

The server picks eight bytes of a file by the caller's token and the file's size, and whoever has
the file can send them back.

* `Possession.offset`: where the window starts.
* `Possession.windowLength`: how long it is.
* `Possession.prove`: reads the window from a stream that can be positioned.
-/

namespace RapidUpload

/-- A stream that can be positioned. -/
class Seekable (ρ : Type) extends Reader ρ where
  seek : Int → Step ρ Int

instance : Seekable Cursor := ⟨Cursor.seek⟩

instance : Seekable Spill := ⟨Spill.seek⟩

namespace Possession

/-- The version of the derivation. -/
def version : String := "v1"

/-- Bytes in a full window. -/
def windowSize : Nat := 8

/-- The digits of the token's digest that count. -/
def digits : Nat := 16

/-- The number a token stands for, by its bytes: the first digits of its MD5. -/
def tokenNumber (token : ByteArray) : Nat :=
  Hex.natOf ((md5.hex token).toList.take digits)

/-- Where the window of a file of a size starts: the token's number modulo the size, and zero for
an empty file. -/
def offset (token : String) (size : Int) : Except Fault Int :=
  if size < 0 then .error (Integer.refuse .negativeSize size)
  else if size = 0 then .ok 0
  else
    match Text.utf8? token with
    | some bytes => .ok ((tokenNumber bytes : Int) % size)
    | none => .error (.undefined .halfPair)

/-- The bytes of the window at a position, never past the size. -/
def windowLength (offset size : Int) : Int :=
  max 0 (min windowSize (size - offset))

/-- A window of a file: where it starts and the bytes there, fewer where the file ends. -/
structure Window where
  offset : Int
  bytes : ByteArray

/-- The window as it is sent. -/
def Window.encoded (w : Window) : String := Base64.encode w.bytes

/-- Reads the window from a stream that can be positioned. -/
def prove {ρ : Type} [Seekable ρ] (token : String) (size : Int) : Step ρ Window := do
  match offset token size with
  | .error e => throw e
  | .ok start =>
    let length := windowLength start size
    if length = 0 then return ⟨start, .empty⟩
    let _ ← Seekable.seek start
    let bytes ← Reader.read (some length)
    return ⟨start, bytes.getD .empty⟩

end Possession

end RapidUpload
