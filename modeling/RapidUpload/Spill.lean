import RapidUpload.Disk
import RapidUpload.Digest.Sha1

/-!
# Spill files

A temp file that takes in a stream while hashing it, and then serves reads from any position.  It
is made at the first absorption and removed at the end.

* `Spill.absorb`: copies a stream into the file and hashes it.
* `Spill.seek`, `Spill.read`: one position for reads and writes.
* `Spill.cleanup`: closes and removes the file; what goes wrong there is only told.
* `Spill.using`: runs an action with a spill and cleans up after it, whichever way it ends.
-/

namespace RapidUpload

/-- An open temp file: its bytes, the position, and the steps that fail from now on. -/
structure TempHandle where
  cursor : FileCursor
  broken : List SpillStep

/-- A spill file over a disk. -/
structure Spill where
  /-- The disk. -/
  disk : Disk
  /-- The folder asked for. -/
  folder : Option String
  /-- The temp file, once made. -/
  temp : Option TempFile
  /-- The open file. -/
  handle : Option TempHandle
  /-- The bytes of the last absorption that ended well. -/
  length : Nat

namespace Spill

/-- A spill with nothing on the disk yet. -/
def new (disk : Disk) (folder : Option String) : Spill :=
  ⟨disk, folder, none, none, 0⟩

/-- The path of the temp file, once made. -/
def path? (s : Spill) : Option String := s.temp.map s.disk.tempPath

/-- The path for messages. -/
def shownPath (s : Spill) : String := s.path?.getD "None"

/-- Bytes copied at a time. -/
def copySize : Nat := 1024 * 1024

/-- The fault of a temp file that could not be made or opened. A path that the disk cannot even be
asked for is no matter of local storage. -/
def creationFault : DiskFault → Fault
  | .brokenPath => .undefined (.disk .brokenPath)
  | .halfPath => .undefined (.disk .halfPath)
  | reason => .storage (.create reason) .null

/-- Makes the temp file. -/
def make : Step Spill TempFile := fun s =>
  match s.disk.createTemp s.folder with
  | .error reason => .error (creationFault reason) s
  | .ok (temp, disk) => .ok temp { s with disk := disk, temp := some temp }

/-- Opens the temp file that was made; one that cannot be opened stays on the disk. -/
def openMade (temp : TempFile) : Step Spill Unit := fun s =>
  match s.disk.openTemp temp with
  | .error reason => .error (creationFault reason) s
  | .ok cursor => .ok () { s with handle := some ⟨cursor, []⟩ }

/-- Makes the temp file and opens it. -/
def create : Act Spill Unit := do
  let temp ← Act.quiet make
  Act.quiet (openMade temp)
  Act.tell .debug .spill ["Spill file created: ", (← Act.look).disk.tempPath temp]

/-- Writes at the position. -/
def write (bytes : ByteArray) : Step Spill Unit := fun s =>
  match s with
  | ⟨disk, folder, temp, some ⟨cursor, broken⟩, length⟩ =>
    if broken.contains .write then .error (.storage (.step .write s.shownPath .full) .null) s
    else .ok () ⟨disk, folder, temp, some ⟨cursor.write bytes, broken⟩, length⟩
  | s => .error (.storage .unwritten .null) s

/-- Copies a stream to its end, hashing it on the way. -/
def copy {ρ : Type} [Reader ρ] (h : Hasher Sha1.State) (r : ρ) (s : Spill) :
    EStateM.Result Fault (ρ × Spill) (Hasher Sha1.State) :=
  match _hr : Reader.read (some (copySize : Int)) r with
  | .error e r' => .error e (r', s)
  | .ok none r' => .ok h (r', s)
  | .ok (some bytes) r' =>
    if _hb : bytes.size = 0 then .ok h (r', s)
    else
      match write bytes s with
      | .error e s' => .error e (r', s')
      | .ok () s' => copy (h.update sha1 bytes) r' s'
termination_by Reader.left r
decreasing_by
  have := Reader.left_read _hr
  simp only [Option.map_some, Option.getD_some] at this
  omega

/-- Lets the bytes written reach the file. -/
def flush : Step Spill Unit := fun s =>
  match s.handle with
  | some handle =>
    if handle.broken.contains .flush then
      .error (.storage (.step .flush s.shownPath .full) .null) s
    else .ok () s
  | none => .error (.storage .unwritten .null) s

/-- Copies a stream into the file, made first if need be, and gives the hasher of all that was
copied. -/
def absorb {ρ : Type} [Reader ρ] : Act (ρ × Spill) (Hasher Sha1.State) := do
  if (← Act.look).2.handle.isNone then Act.within .second create
  let hasher ← Act.quiet fun (r, s) => copy (.new sha1) r s
  Act.quiet (Step.within .second flush)
  Act.change fun (r, s) => (r, { s with length := hasher.length })
  let s := (← Act.look).2
  Act.tell .debug .spill ["Absorbed ", toString s.length, " bytes into ", s.shownPath]
  return hasher

/-- Runs a step on the open file; a broken step fails as a full disk does. -/
def onFile {β : Type} (what : SpillStep) (a : Step FileCursor β) : Step Spill β := fun s =>
  match s.handle with
  | none => .error (.storage .unwritten .null) s
  | some handle =>
    if handle.broken.contains what then
      .error (.storage (.step what s.shownPath .full) .null) s
    else
      match a handle.cursor with
      | .ok b c => .ok b { s with handle := some { handle with cursor := c } }
      | .error e c => .error e { s with handle := some { handle with cursor := c } }

/-- Moves to a position of the file. -/
def seek (n : Int) : Step Spill Int := fun s =>
  match onFile .seek (FileCursor.seek n) s with
  | .error (.undefined .unreachablePosition) s' =>
    .error (.storage (.step .seek s.shownPath .invalid) .null) s'
  | r => r

/-- Moves to the start. -/
def rewind : Step Spill Unit := do
  let _ ← seek 0

/-- Reads from the position. -/
def read (ask : Option Int) : Step Spill ByteArray := onFile .read (FileCursor.read ask)

/-- Bytes from the position on. -/
def left (s : Spill) : Nat := (s.handle.map (·.cursor.left)).getD 0

theorem left_read {ask : Option Int} {s s' : Spill} {out : ByteArray}
    (h : read ask s = .ok out s') : s'.left + out.size ≤ s.left := by
  simp only [read, onFile] at h
  split at h
  · cases h
  · rename_i handle hs
    split at h
    · cases h
    · split at h
      · rename_i he
        cases h
        have := FileCursor.left_read he
        simp only [left, hs, Option.map_some, Option.getD_some]
        omega
      · cases h

instance : Reader Spill where
  read ask := some <$> read ask
  left := left
  left_read {ask r r' out} h := by
    simp only [Functor.map, EStateM.map] at h
    split at h
    · rename_i he
      cases h
      exact left_read he
    · cases h

/-- Closes the file; a close that fails is told, and the file counts as closed. -/
def closeFile (s : Logged Spill) : Logged Spill :=
  match s.state.handle with
  | none => s
  | some handle =>
    let log :=
      if handle.broken.contains .close then
        s.log.push ⟨.warning, .spill,
          [(StorageCause.step .close s.state.shownPath .full).message]⟩
      else s.log
    ⟨{ s.state with handle := none }, log⟩

/-- Removes the file from the disk; a removal that fails is told. -/
def removeFile (s : Logged Spill) : Logged Spill :=
  match s.state.temp with
  | none => s
  | some temp =>
    let path := s.state.shownPath
    match s.state.disk.temp? temp.serial, s.state.disk.removeTemp temp.serial with
    | none, _ => ⟨{ s.state with temp := none }, s.log⟩
    | some _, .ok disk =>
      ⟨{ s.state with temp := none, disk := disk },
        s.log.push ⟨.debug, .spill, ["Spill file removed: ", path]⟩⟩
    | some _, .error fault =>
      ⟨{ s.state with temp := none },
        s.log.push ⟨.warning, .spill, ["Could not remove temp file ", path, ": ", fault.message]⟩⟩

/-- Closes and removes the file. -/
def cleanup (s : Logged Spill) : Logged Spill := removeFile (closeFile s)

/-! ### Faults brought about from outside -/

/-- From now on a step of the open file fails. -/
def breakStep (what : SpillStep) (s : Spill) : Spill :=
  { s with handle := s.handle.map fun h => { h with broken := what :: h.broken } }

/-- Takes the temp file off the disk; the open file stays readable. -/
def unlink (s : Spill) : Spill :=
  match s.temp with
  | none => s
  | some temp => { s with disk := s.disk.dropTemp temp.serial }

/-- Puts a folder where the temp file was. -/
def replaceWithFolder (s : Spill) : Spill :=
  match s.temp with
  | none => s
  | some temp => { s with disk := s.disk.replaceTemp temp.serial }

end Spill

end RapidUpload
