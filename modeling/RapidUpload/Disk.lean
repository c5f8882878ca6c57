import RapidUpload.Path
import RapidUpload.Reader.File

/-!
# The local disk

The files and folders an upload can meet: those that stand there, and the temp files made since.

* `Disk.placeOf`: the place a path names, inside the working folder or outside of it.
* `Disk.find`: what stands at a path, followed part by part, or why nothing can be found.
* `Disk.readFile`: the bytes of the file at a path.
* `Disk.createTemp`: makes a temp file in a folder; no two have the same serial.
* `Disk.openTemp`: opens a temp file that was made.
* `Disk.count`: how many entries a folder holds.
-/

namespace RapidUpload

/-- What stands at a place. -/
inductive DiskEntry where
  | file (bytes : ByteArray)
  | folder

/-- A place on the disk, by the names that lead to it. -/
inductive Place where
  /-- From the working folder on. -/
  | inside (parts : List String)
  /-- From the top of the disk on. -/
  | outside (parts : List String)
deriving DecidableEq

/-- A temp file: the folder it was made in, by its place and as it is written, and what tells it
from the others. It may have been replaced by a folder. -/
structure TempFile where
  folder : Place
  written : String
  serial : Nat
  isFolder : Bool

/-- The disk as seen from a working folder. -/
structure Disk where
  /-- The limits of its files. -/
  limits : FileLimits
  /-- Why the temp file of a serial cannot be opened once it is made, if it cannot. -/
  sealed : Nat → Option DiskFault
  /-- The working folder as it is written in paths. -/
  root : String
  /-- What ends the name of the temp file of a serial. -/
  suffix : Nat → String
  /-- The folder for temp files when none is asked for. -/
  tempFolder : String
  /-- The names that lead from the top to the folder that the working folder stands in. -/
  above : List String
  /-- The folders that stand elsewhere, each by the names from the top on. -/
  elsewhere : List (List String)
  /-- The entries, each by its parts from the working folder on. -/
  entries : List (List String × DiskEntry)
  /-- The temp files that stand. -/
  temps : List TempFile
  /-- The serial of the next temp file. -/
  next : Nat

namespace Disk

/-- What stands at the parts of a path without steps upward; a folder stands wherever an entry
lies further down. -/
def at? (d : Disk) (parts : List String) : Option DiskEntry :=
  if parts.isEmpty then some .folder
  else
    match d.entries.find? (·.1 = parts) with
    | some (_, entry) => some entry
    | none => if d.entries.any (parts.isPrefixOf ·.1) then some .folder else none

/-- What stands at a place; outside, the folders on the way to the working folder and to those that
stand elsewhere. -/
def entry? (d : Disk) : Place → Option DiskEntry
  | .inside parts => d.at? parts
  | .outside parts =>
    if parts.isEmpty || (d.above :: d.elsewhere).any parts.isPrefixOf then some .folder else none

/-- Where a path starts. -/
def start (path : String) : Place := if Path.isAbsolute path then .outside [] else .inside []

/-- One part further; a step upward at the top stays there. -/
def step (d : Disk) (p : String) : Place → Place
  | .inside parts =>
    if p != ".." then .inside (parts ++ [p])
    else if parts.isEmpty then .outside d.above
    else .inside parts.dropLast
  | .outside parts => .outside (if p != ".." then parts ++ [p] else parts.dropLast)

/-- The place a path names when its steps are carried out on the text. -/
def placeOf (d : Disk) (path : String) : Place :=
  (Path.parts path).foldl (fun place p => d.step p place) (start path)

/-- A place as it is written; the slashes a path starts with stay. -/
def written (d : Disk) (path : String) : Place → String
  | .inside parts => d.root ++ String.join (parts.map ("/" ++ ·))
  | .outside parts =>
    (if Path.isAbsolute path then Path.root path else "/") ++ String.intercalate "/" parts

/-- The most bytes of a name. -/
def nameLimit : Nat := 255

/-- The most bytes of a path. -/
def pathLimit : Nat := 4095

/-- A path the disk can follow: no half of a pair and no NUL in it, and not too many bytes. -/
def checkPath (path : String) : Except DiskFault Unit :=
  if Path.hasHalf path then .error .halfPath
  else if Path.isBroken path then .error .brokenPath
  else if pathLimit < Path.byteSize path then .error (.longName path)
  else .ok ()

/-- Follows the parts of a path from the place `here`. A step upward needs a folder to start from,
and so does a step down, to a name that is not too long. -/
def follow (d : Disk) (path : String) (here : Place) : List String → Except DiskFault DiskEntry
  | [] =>
    match d.entry? here with
    | some entry => .ok entry
    | none => .error (.missing path)
  | p :: rest =>
    match d.entry? here with
    | some .folder =>
      if nameLimit < Path.byteSize p then .error (.longName path)
      else d.follow path (d.step p here) rest
    | some (.file _) => .error (.notFolder path)
    | none => .error (.missing path)

/-- What stands at a path, followed part by part. -/
def find (d : Disk) (path : String) : Except DiskFault DiskEntry := do
  checkPath path
  d.follow path (start path) (Path.parts path)

/-- A file stands at a path. -/
def isFile (d : Disk) (path : String) : Bool :=
  match d.find (Path.normal path) with
  | .ok (.file _) => true
  | _ => false

/-- The bytes of the file at a path as it is written. -/
def readFile (d : Disk) (path : String) : Except DiskFault ByteArray := do
  match ← d.find path with
  | .folder => throw (.isFolder path)
  | .file bytes => if Path.namesFolder path then throw (.notFolder path) else return bytes

/-- The path of a temp file as it is written. -/
def tempPath (d : Disk) (t : TempFile) : String :=
  t.written ++ (if t.written.endsWith "/" then "" else "/") ++ "file-" ++ d.suffix t.serial

/-- Makes a temp file in the folder asked for, or in the one for temp files. -/
def createTemp (d : Disk) (folder : Option String) : Except DiskFault (TempFile × Disk) := do
  let asked := folder.getD d.tempFolder
  let place := d.placeOf asked
  let temp : TempFile := ⟨place, d.written asked place, d.next, false⟩
  let path := d.tempPath temp
  checkPath path
  let entry ← match place with
    | .inside parts => d.follow path (.inside []) parts
    | .outside parts => d.follow path (.outside []) parts
  match entry with
  | .file _ => throw (.notFolder path)
  | .folder => return (temp, { d with temps := temp :: d.temps, next := d.next + 1 })

/-- Opens a temp file that was made, with nothing in it. -/
def openTemp (d : Disk) (t : TempFile) : Except DiskFault FileCursor :=
  match d.sealed t.serial with
  | some reason => .error reason
  | none => .ok (.empty d.limits)

/-- The temp file of a serial, if it still stands. -/
def temp? (d : Disk) (serial : Nat) : Option TempFile :=
  d.temps.find? (·.serial = serial)

/-- Takes a temp file away. -/
def dropTemp (d : Disk) (serial : Nat) : Disk :=
  { d with temps := d.temps.filter (·.serial != serial) }

/-- Removes a temp file; one that is gone needs no removal, and a folder stays. -/
def removeTemp (d : Disk) (serial : Nat) : Except DiskFault Disk :=
  match d.temp? serial with
  | none => .ok d
  | some t => if t.isFolder then .error (.isFolder (d.tempPath t)) else .ok (d.dropTemp serial)

/-- Puts a folder in the place of a temp file. -/
def replaceTemp (d : Disk) (serial : Nat) : Disk :=
  { d with
    temps := d.temps.map fun t => if t.serial = serial then { t with isFolder := true } else t }

/-- The names right below a folder. -/
def names (d : Disk) (folder : List String) : List String :=
  (d.entries.filterMap fun (parts, _) =>
    if folder.isPrefixOf parts then (parts.drop folder.length).head? else none).eraseDups

/-- How many entries a folder below the working folder holds. -/
def count (d : Disk) (folder : List String) : Nat :=
  (d.names folder).length + (d.temps.filter (·.folder = .inside folder)).length

end Disk

end RapidUpload
