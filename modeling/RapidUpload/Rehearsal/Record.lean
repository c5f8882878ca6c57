import RapidUpload.Service

/-!
# Records

A service that keeps a record of the calls made to it, around any other one.

* `Call`: a call with what was sent.
* `Recorded`: a service and the calls made to it so far, in order.
-/

namespace RapidUpload

/-- A call to a service, or something else that is kept in order with the calls. -/
inductive Call where
  | create (body : Json)
  | part (url : Json) (bytes : ByteArray)
  | complete (driveId fileId uploadId : Json)
  | progress (percent : Int)
  | close
  /-- An upload has ended with so many temp files left. -/
  | ended (leftover : Nat)

/-- A service and the calls made to it so far. -/
structure Recorded (α : Type) where
  inner : α
  calls : Array Call

namespace Recorded

variable {α : Type}

/-- A service with no calls made yet. -/
def new (inner : α) : Recorded α := ⟨inner, #[]⟩

/-- Puts something on record. -/
def note (call : Call) : Act (Recorded α) Unit :=
  Act.change fun r => { r with calls := r.calls.push call }

/-- The service behind the record. -/
def theInner : Focus (Recorded α) α := ⟨inner, fun a r => { r with inner := a }⟩

/-- Percentages on record. -/
def percents (r : Recorded α) : List Int :=
  r.calls.toList.filterMap fun
    | .progress n => some n
    | _ => none

instance [DriveService α] : DriveService (Recorded α) where
  accessToken r := DriveService.accessToken r.inner
  createUpload body := do
    note (.create body)
    Act.within theInner (DriveService.createUpload body)
  uploadPart url bytes := do
    note (.part url bytes)
    Act.within theInner (DriveService.uploadPart url bytes)
  completeUpload driveId fileId uploadId := do
    note (.complete driveId fileId uploadId)
    Act.within theInner (DriveService.completeUpload driveId fileId uploadId)

end Recorded

end RapidUpload
