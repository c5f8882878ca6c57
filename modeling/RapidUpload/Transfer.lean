import RapidUpload.Part
import RapidUpload.Service
import RapidUpload.Number.Size
import RapidUpload.Reader.Basic

/-!
# Transfers

The parts are sent one by one in the order of their numbers, each with the next slice of the
stream, and after each the percentage reached is reported.  A part that fails ends the transfer.

* `Transfer.percent`: the percentage after some of the parts.
* `Transfer.run`: sends all parts.
-/

namespace RapidUpload.Transfer

/-- The percentage after `index` parts of `count`, at most a hundred; nothing to divide by, nothing
to report. -/
def percent (index count : Int) : Option Int :=
  if count ≤ 0 then none else some (min 100 (Int.fdiv (index * 100) count))

/-- Puts a part in front of the first one whose number is no lower. -/
def place (part : Part) : List Part → List Part
  | [] => [part]
  | other :: rest =>
    if part.number ≤ other.number then part :: other :: rest else other :: place part rest

/-- The parts in the order of their numbers; parts of one number keep their order. -/
def ordered (parts : List Part) : List Part := parts.foldr place []

variable {ρ α : Type} [Reader ρ] [DriveService α]

/-- Sends a slice to the address of a part; a failure is told and stands. -/
def send (part : Part) (bytes : ByteArray) : Act (ρ × α) Unit := do
  let size ← Act.ofExcept (Size.kilobytes 1 bytes.size)
  let number ← Act.ofExcept (Integer.text part.number)
  Act.tell .debug .part ["Uploading part ", number, " (", size, " KB)"]
  match ← (Act.within Focus.second (DriveService.uploadPart part.url bytes)).outcome with
  | .ok () =>
    Act.tell .debug .part ["Part ", number, " uploaded in ", .elapsed, "s (", .speed, " KB/s)"]
  | .error e =>
    Act.tell .error .part ["Part ", number, " failed after ", .elapsed, "s: ", e.message]
    Act.fail e

/-- Reports the percentage after `index` parts. -/
def report (progress : Option (Progress α)) (index : Nat) (count : Int) : Act (ρ × α) Unit :=
  match percent index count, progress with
  | some n, some tell => Act.within Focus.second (tell n)
  | _, _ => pure ()

/-- Sends the parts of a list in its order, after `done` others, and gives the number sent. -/
def sendAll (size : PartSize) (count : Int) (progress : Option (Progress α)) :
    List Part → Nat → Act (ρ × α) Nat
  | [], done => pure done
  | part :: rest, done => do
    let bytes ← Act.within Focus.first (Act.quiet (Reader.readUpTo size.bytes))
    send part bytes
    report progress (done + 1) count
    sendAll size count progress rest (done + 1)

/-- Sends all parts in the order of their numbers and gives the number sent. `count` is the number
of parts that the percentages are of. -/
def run (size : PartSize) (parts : List Part) (count : Int) (progress : Option (Progress α)) :
    Act (ρ × α) Nat := do
  let parts := ordered parts
  let total ← Act.ofExcept (Size.megabytes 1 (parts.length * size.bytes))
  Act.tell .info .part ["Uploading ", toString parts.length, " parts (up to ", total, " MB)"]
  sendAll size count progress parts 0

end RapidUpload.Transfer
