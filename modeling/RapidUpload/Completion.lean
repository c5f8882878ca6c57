import RapidUpload.Answer
import RapidUpload.Service

/-!
# Completions

An upload is complete once the server's answer names the file that was negotiated.
-/

namespace RapidUpload.Completion

/-- The answer to a completion names the file of the session. -/
def confirms (session : Session) (answer : Json) : Bool :=
  (answer.field "file_id").same session.fileId

/-- Completes an upload and gives the server's answer, which must name the file. -/
def complete {α : Type} [DriveService α] (driveId : Json) (session : Session) : Act α Json := do
  let uploadId ← Act.ofExcept session.uploadId.told
  let fileId ← Act.ofExcept session.fileId.told
  Act.tell .debug .finalize ["Completing upload ", uploadId, " for file ", fileId]
  let answer ← DriveService.completeUpload driveId session.fileId session.uploadId
  let confirmed := answer.field "file_id"
  let told ← Act.ofExcept confirmed.told
  if confirms session answer then
    Act.tell .info .finalize ["Upload completed: ", told]
    return answer
  else
    Act.tell .error .finalize ["Completion returned file id ", confirmed.literal, ", expected ",
      session.fileId.literal]
    Act.fail (MismatchCause.unconfirmed.fault answer session.fileId)

end RapidUpload.Completion
