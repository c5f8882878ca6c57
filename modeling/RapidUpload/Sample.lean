import RapidUpload.Reader.Replay
import RapidUpload.Digest.Sha1

/-!
# Samples

The first bytes of a stream, up to a budget, with their SHA-1: what the server gets to see before
it asks for more.  Sampling loses nothing: the bytes taken go in front of the stream they were
taken from (`Sample.replay`).
-/

namespace RapidUpload

/-- The first bytes of a stream and their SHA-1 in hexadecimal. -/
structure Sample where
  bytes : ByteArray
  preHash : String

/-- The stream a sample was taken from, with the sample in front. -/
def Sample.replay {ρ : Type} (x : Sample) (rest : ρ) : Replay ρ :=
  ⟨x.bytes, 0, rest⟩

/-- How many bytes at most a sample takes. -/
structure Sampler where
  budget : Nat

namespace Sampler

/-- The budget when none is given. -/
def standard : Sampler := ⟨1024⟩

/-- A sampler of a budget that is not negative. -/
def ofBudget (n : Int) : Except Fault Sampler :=
  if n < 0 then .error (.refused .sampleBudget) else .ok ⟨n.toNat⟩

/-- Samples a stream and leaves it behind the bytes taken. -/
def sample {ρ : Type} [Reader ρ] (s : Sampler) : Act ρ Sample := do
  let bytes ← Act.quiet (Reader.readUpTo s.budget)
  let preHash := sha1.hex bytes
  Act.tell .debug .sampler ["Pre-hash over ", toString bytes.size, " bytes: ", preHash]
  return ⟨bytes, preHash⟩

end Sampler

end RapidUpload
