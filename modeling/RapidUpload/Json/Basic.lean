import RapidUpload.Number.Double

/-!
# JSON values

Values with integers of any size apart from binary64 numbers, and objects that keep the order of
their fields.  The server's answers are kept as such values, since a server may send anything.

* `Json.truthy`: neither null, false, zero nor empty.
* `Json.same`: equality of values: numbers by what they count, objects whatever their order.
* `Json.insert`: the first place and the last value of a repeated name.
-/

namespace RapidUpload

/-- A JSON value. -/
inductive Json where
  | null
  | bool (b : Bool)
  | int (n : Int)
  | float (x : Double)
  | str (s : String)
  | arr (items : List Json)
  | obj (fields : List (String × Json))
deriving Inhabited

namespace Json

instance : Coe String Json := ⟨Json.str⟩

/-- The value of the first field of a name. -/
def find? (key : String) : List (String × Json) → Option Json
  | [] => none
  | (k, v) :: rest => if k = key then some v else find? key rest

/-- The field of an object; a value of another kind has none. -/
def get? (key : String) : Json → Option Json
  | .obj fields => find? key fields
  | _ => none

/-- The field of an object, null when there is none. -/
def field (key : String) (j : Json) : Json :=
  (j.get? key).getD .null

/-- Is an object. -/
def isObj : Json → Bool
  | .obj _ => true
  | _ => false

/-- Sets a field: a name keeps its first place and takes its last value. -/
def insert (fields : List (String × Json)) (key : String) (v : Json) : List (String × Json) :=
  match fields with
  | [] => [(key, v)]
  | (k, w) :: rest => if k = key then (k, v) :: rest else (k, w) :: insert rest key v

/-- Neither null, false, zero nor empty. -/
def truthy : Json → Bool
  | .null => false
  | .bool b => b
  | .int n => n != 0
  | .float x => x.isNonzero
  | .str s => s != ""
  | .arr items => !items.isEmpty
  | .obj fields => !fields.isEmpty

/-- The value itself where it is truthy, else the other one. -/
def orElse (v other : Json) : Json :=
  if v.truthy then v else other

/-- What a value counts: an integer, with the truth values as zero and one. -/
def asInt? : Json → Option Int
  | .bool b => some (if b then 1 else 0)
  | .int n => some n
  | _ => none

/-- Equality of two scalars: numbers and truth values by what they count. -/
def sameScalar : Json → Json → Bool
  | .null, .null => true
  | .str s, .str t => s == t
  | .float x, .float y => x.sameValue y
  | .float x, w => w.asInt?.any x.equalsInt
  | v, .float y => v.asInt?.any y.equalsInt
  | v, w => match v.asInt?, w.asInt? with
    | some m, some n => m == n
    | _, _ => false

/-- Neither value is a number. -/
def bothNaN : Json → Json → Bool
  | .float x, .float y => x.isNaN && y.isNaN
  | _, _ => false

mutual

/-- Equality of values. Numbers and truth values are equal when they count the same, arrays item
by item, objects when they have the same names with equal values. Inside a container what is no
number equals itself. -/
def same : Json → Json → Bool
  | .arr xs, .arr ys => sameItems xs ys
  | .obj xs, .obj ys => xs.length == ys.length && sameFields xs ys
  | v, w => sameScalar v w

/-- Equality of two rows of items. -/
def sameItems : List Json → List Json → Bool
  | [], [] => true
  | x :: xs, y :: ys => (bothNaN x y || same x y) && sameItems xs ys
  | _, _ => false

/-- Every field on the left has an equal one on the right. -/
def sameFields : List (String × Json) → List (String × Json) → Bool
  | [], _ => true
  | (k, v) :: rest, ys =>
    (match find? k ys with
      | some w => bothNaN v w || same v w
      | none => false) && sameFields rest ys

end

/-- Holds no other values. -/
def isScalar : Json → Bool
  | .arr _ | .obj _ => false
  | _ => true

end Json

end RapidUpload
