import RapidUpload.Disk
import RapidUpload.Number.Size

/-!
# Sources

What a caller hands in for an upload, and the stream, the name and the size it comes to.

* `Origin`: a path, bytes, a stream of the caller's own, or a blocking reader.
* `Opened`: the stream an origin opens to.
* `Source.enter`: opens an origin; a name and a size that are not given are taken from it where
  it has them.
-/

namespace RapidUpload

/-- A blocking reader over bytes, such as an open file. -/
structure Blocking where
  cursor : Cursor
  /-- Tells whether it can be positioned, and whether it can. -/
  seekable : Bool
  /-- The name it carries. -/
  name : Option String
  /-- Gives text instead of bytes. -/
  givesText : Bool

namespace Blocking

/-- Reads bytes; text is turned down. -/
def read (ask : Option Int) : Step Blocking ByteArray := fun b =>
  match Cursor.read ask b.cursor with
  | .error e c => .error e { b with cursor := c }
  | .ok bytes c =>
    if b.givesText then .error (.refused .textStream) { b with cursor := c }
    else .ok bytes { b with cursor := c }

/-- Moves to the end and tells the position there. -/
def seekEnd : Step Blocking Nat := fun b =>
  .ok b.cursor.bytes.size { b with cursor := { b.cursor with position := b.cursor.bytes.size } }

/-- Moves to a position. -/
def seekTo (position : Nat) : Step Blocking Unit := fun b =>
  .ok () { b with cursor := { b.cursor with position := position } }

/-- The bytes from the position to the end, found by moving to the end and back; negative past the
end, and none where the reader cannot be positioned. -/
def remaining : Step Blocking (Option Int) := do
  let b ← get
  if !b.seekable then return none
  let ending ← seekEnd
  seekTo b.cursor.position
  return some ((ending : Int) - b.cursor.position)

end Blocking

/-- What a caller hands in. -/
inductive Origin (ρ : Type) where
  | path (path : String)
  | bytes (bytes : ByteArray)
  /-- A stream of the caller's own. -/
  | stream (r : ρ)
  | blocking (b : Blocking)
  /-- A stream of text. -/
  | text
  /-- A value of a kind that holds no bytes. -/
  | unsupported (kind : String)

/-- The stream an origin opens to. -/
inductive Opened (ρ : Type) where
  | file (c : FileCursor)
  | bytes (c : Cursor)
  | stream (r : ρ)
  | blocking (b : Blocking)

namespace Opened

variable {ρ : Type}

/-- Carries a step on a part over to the whole. -/
def lift {σ β : Type} (wrap : σ → Opened ρ) (r : EStateM.Result Fault σ β) :
    EStateM.Result Fault (Opened ρ) β :=
  match r with
  | .ok b s => .ok b (wrap s)
  | .error e s => .error e (wrap s)

/-- Moves to a position, where the stream can be positioned. -/
def seek (n : Int) : Step (Opened ρ) Int
  | .file c => lift .file (FileCursor.seek n c)
  | .bytes c => lift .bytes (Cursor.seek n c)
  | s => .error (.undefined .unsupported) s

theorem lift_ok {σ β : Type} {wrap : σ → Opened ρ} {r : EStateM.Result Fault σ β} {b : β}
    {s' : Opened ρ} (h : lift wrap r = .ok b s') : ∃ s, r = .ok b s ∧ s' = wrap s := by
  unfold lift at h
  split at h
  · cases h
    exact ⟨_, rfl, rfl⟩
  · cases h

theorem map_some_ok {σ : Type} {a : Step σ ByteArray} {s s' : σ} {out : Option ByteArray}
    (h : (some <$> a : Step σ _) s = .ok out s') :
    ∃ bytes, out = some bytes ∧ a s = .ok bytes s' := by
  simp only [Functor.map, EStateM.map] at h
  split at h
  · rename_i he
    cases h
    exact ⟨_, rfl, he⟩
  · cases h

theorem left_readBlocking {ask : Option Int} {b b' : Blocking} {out : ByteArray}
    (h : Blocking.read ask b = .ok out b') : b'.cursor.left + out.size = b.cursor.left := by
  unfold Blocking.read at h
  split at h
  · cases h
  · rename_i he
    split at h
    · cases h
    · cases h
      exact Cursor.left_read he

variable [Reader ρ]

/-- Reads from whichever stream it is. -/
def read (ask : Option Int) : Step (Opened ρ) (Option ByteArray)
  | .file c => lift .file ((some <$> FileCursor.read ask : Step FileCursor _) c)
  | .bytes c => lift .bytes ((some <$> Cursor.read ask : Step Cursor _) c)
  | .stream r => lift .stream (Reader.read ask r)
  | .blocking b => lift .blocking ((some <$> Blocking.read ask : Step Blocking _) b)

/-- Bytes still to come. -/
def left : Opened ρ → Nat
  | .file c => c.left
  | .bytes c => c.left
  | .stream r => Reader.left r
  | .blocking b => b.cursor.left

theorem left_read {ask : Option Int} {r r' : Opened ρ} {out : Option ByteArray}
    (h : read ask r = .ok out r') : r'.left + (out.map ByteArray.size).getD 0 ≤ r.left := by
  cases r with
  | file c =>
    obtain ⟨c', hc, rfl⟩ := lift_ok h
    obtain ⟨bytes, rfl, hb⟩ := map_some_ok hc
    exact Nat.le_of_eq (FileCursor.left_read hb)
  | bytes c =>
    obtain ⟨c', hc, rfl⟩ := lift_ok h
    obtain ⟨bytes, rfl, hb⟩ := map_some_ok hc
    exact Nat.le_of_eq (Cursor.left_read hb)
  | stream r =>
    obtain ⟨r', hr, rfl⟩ := lift_ok h
    exact Reader.left_read hr
  | blocking b =>
    obtain ⟨b', hc, rfl⟩ := lift_ok h
    obtain ⟨bytes, rfl, hb⟩ := map_some_ok hc
    exact Nat.le_of_eq (left_readBlocking hb)

instance : Reader (Opened ρ) where
  read := read
  left := left
  left_read := left_read

end Opened

/-- A stream with the name and the size it goes by. -/
structure Source (ρ : Type) where
  stream : Opened ρ
  name : String
  size : Nat

namespace Source

variable {ρ : Type}

/-- Opens the file at a path; a path that is too long is a fault of its own. -/
def openFile (disk : Disk) (path : String) : Except Fault ByteArray :=
  let path := Path.normal path
  match disk.find path with
  | .error (.longName path) => .error (.undefined (.disk (.longName path)))
  | .error _ => .error (.refused (.fileNotFound path))
  | .ok .folder => .error (.refused (.notAFile path))
  | .ok (.file bytes) => .ok bytes

/-- A given text unless it is empty, else another one. -/
def given (name : Option String) (other : String) : String :=
  match name with
  | some n => if n = "" then other else n
  | none => other

/-- The stream, the name and the size of an origin before they are checked. -/
def resolve {σ : Type} (disk : Disk) (name : Option String) (size : Option Int) :
    Origin ρ → Act σ (Opened ρ × String × Option Int)
  | .path path => do
    let bytes ← Act.ofExcept (openFile disk path)
    -- the size of a file has few digits, a declared one may have any number
    let digits ← Act.ofExcept (size.elim (.ok (toString bytes.size)) Integer.text)
    Act.tell .debug .file ["Opened ", Path.normal path, " (", digits, " bytes)"]
    return (.file (.ofBytes disk.limits bytes), given name (Path.lastName path),
      some (size.getD bytes.size))
  | .bytes bytes =>
    return (.bytes (.ofBytes bytes), given name "", some (size.getD bytes.size))
  | .text => Act.fail (.refused .textStream)
  | .stream r => return (.stream r, given name "", size)
  | .blocking b => do
    let (size, b) ← match size with
      | some n => pure (some n, b)
      | none =>
        match Blocking.remaining b with
        | .ok n b => pure (n, b)
        | .error e _ => Act.fail e
    return (.blocking b, given name ((b.name.map Path.lastName).getD ""), size)
  | .unsupported kind => Act.fail (.refused (.unsupportedSource kind))

/-- Opens an origin, whose name must not be empty and whose size must be known and not
negative. -/
def enter {σ : Type} (disk : Disk) (name : Option String) (size : Option Int) (o : Origin ρ) :
    Act σ (Source ρ) := do
  let (stream, name, size) ← resolve disk name size o
  if name = "" then Act.fail (.refused .noName)
  else
    match size with
    | none => Act.fail (.refused .noSize)
    | some n =>
      if n < 0 then Act.fail (Integer.refuse .negativeSize n)
      else return ⟨stream, name, n.toNat⟩

end Source

end RapidUpload
