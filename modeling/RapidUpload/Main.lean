import RapidUpload.Console.Print
import RapidUpload.Rehearsal.Tape
import RapidUpload.Rehearsal.Wire
import RapidUpload.Json.Parser

/-!
# The program

Carries out a command against a script: the server's answers stand on the standard input, one
JSON object a line, in the order they are asked for.  Files are looked for below the working
folder.
-/

open RapidUpload

/-- The lines of a stream up to its end. -/
partial def readLines (input : IO.FS.Stream) (done : List String) : IO (List String) := do
  let line ← input.getLine
  if line.isEmpty then return done.reverse
  else readLines input (line :: done)

/-- The file at a path, if there is one. -/
def readFile? (path : String) : IO (Option (List String × DiskEntry)) := do
  try
    return some (Path.climb (Path.parts path), .file (← IO.FS.readBinFile path))
  catch _ => return none

/-- The answers of a script; a line that is no JSON is passed over. -/
def repliesOf (lines : List String) : List Reply :=
  lines.filterMap fun line =>
    match Json.read Json.depthLimit (Text.ofString line) with
    | .ok j => some (Rehearsal.Wire.replyOf j)
    | .error _ => none

def main (args : List String) : IO UInt32 := do
  let files ← args.filterMapM readFile?
  let disk : Disk :=
    { limits := .widest
      sealed := fun _ => none
      root := "."
      suffix := fun serial => toString serial
      tempFolder := "."
      above := []
      elsewhere := []
      entries := files
      temps := []
      next := 0 }
  let replies := repliesOf (← readLines (← IO.getStdin) [])
  let token ← IO.getEnv "ALIDRIVE_ACCESS_TOKEN"
  let machine : Machine (Taped Rehearsal.Wire) :=
    ⟨.new ⟨replies, false, disk⟩, disk, Console.standard.encoded, token⟩
  let (ending, _) := Program.run Taped.bar args machine
  IO.print ending.output
  match ending.result with
  | .ok status => return UInt32.ofNat status.code
  | .error e =>
    IO.eprintln e.message
    return 1
