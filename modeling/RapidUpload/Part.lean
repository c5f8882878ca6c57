import RapidUpload.Number.Size

/-!
# Parts

A large file is sent in parts of one size, numbered from one.  The server gives each part the
address it is sent to.

* `Part.ofJson`: a part as the server lists it.
* `PartSize.plan`: the parts a size needs, one for each slice.
-/

namespace RapidUpload

/-- A part by its number, and the address it is sent to, empty until the server gives one. The
server may send any value for the address. -/
structure Part where
  number : Int
  url : Json

namespace Part

/-- The form a part has in a request: its number alone. -/
def toJson (p : Part) : Json := .obj [("part_number", .int p.number)]

/-- The fault of a value that stands for no integer. -/
def noNumber : Json.NoInteger → Fault
  | .unreadable => .undefined .unreadableInteger
  | .unbounded => .undefined .unboundedInteger
  | .noNumber => .undefined .noInteger

/-- A part as the server lists it: without a number it is part zero, and an empty address stands
for none. -/
def ofFields (fields : List (String × Json)) : Except Fault Part :=
  match ((Json.find? "part_number" fields).getD (.int 0)).integer with
  | .error e => .error (noNumber e)
  | .ok n => .ok ⟨n, ((Json.find? "upload_url" fields).getD "").orElse ""⟩

/-- The parts among the items of a list; an item that is no object is passed over. -/
def ofItems : List Json → Except Fault (List Part)
  | [] => .ok []
  | .obj fields :: rest => do
    let part ← ofFields fields
    let parts ← ofItems rest
    return part :: parts
  | _ :: rest => ofItems rest

/-- The parts a value lists. A text or an object lists none, and neither does an empty value;
another value lists nothing at all. -/
def ofList : Json → Except Fault (List Part)
  | .arr items => ofItems items
  | .str _ | .obj _ => .ok []
  | v => if v.truthy then .error (.undefined .noRow) else .ok []

end Part

/-- The size of a part, which is not zero. -/
structure PartSize where
  bytes : Nat
  pos : 0 < bytes

namespace PartSize

/-- Ten mebibytes. -/
def standard : PartSize := ⟨10 * 1024 * 1024, by decide⟩

/-- The part size of a positive number. -/
def ofInt (n : Int) : Except Fault PartSize :=
  if h : 0 < n then .ok ⟨n.toNat, by omega⟩ else .error (.refused .partSize)

/-- The parts a size needs: the quotient rounded up, none for nothing. -/
def count (p : PartSize) (size : Nat) : Nat := (size + p.bytes - 1) / p.bytes

/-- The parts a size needs, for a size that is not negative. -/
def countOf (p : PartSize) (size : Int) : Except Fault Nat :=
  if size < 0 then .error (Integer.refuse .negativeFileSize size) else .ok (p.count size.toNat)

/-- The parts a size needs, numbered from one. -/
def plan (p : PartSize) (size : Nat) : List Part :=
  (List.range (p.count size)).map fun (i : Nat) => ⟨i + 1, ""⟩

end PartSize

end RapidUpload
