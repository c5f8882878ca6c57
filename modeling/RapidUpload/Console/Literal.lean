import RapidUpload.Console.Literal.Token
import RapidUpload.Text.Half

/-!
# Literals

Values written as text: numbers and sums of a real and an imaginary one, texts, bytes, truth
values, and rows, sets and tables of values.  The items of a set and the keys of a table can be
looked up, which sets and tables cannot.

* `Literal.isValue`: a text stands for a value.
-/

namespace RapidUpload.Console.Literal

/-- What is known of a value. -/
inductive Kind where
  /-- A number without a sign. -/
  | real
  /-- An imaginary number without a sign. -/
  | imaginary
  /-- A number with a sign. -/
  | signed
  /-- Any other value; whether it can be looked up. -/
  | other (isKey : Bool)
  /-- The word that makes an empty set when it is called. -/
  | maker
deriving DecidableEq

namespace Kind

/-- Is a value. -/
def isValue (k : Kind) : Bool := k != .maker

/-- Is a value that can be looked up. -/
def isKey : Kind → Bool
  | .other isKey => isKey
  | .maker => false
  | _ => true

/-- A value after a sign. -/
def withSign? : Kind → Option Kind
  | .real => some .signed
  | .imaginary => some (.other true)
  | _ => none

/-- The sum or the difference of a real and an imaginary number. -/
def sum? : Kind → Kind → Option Kind
  | .real, .imaginary | .signed, .imaginary => some (.other true)
  | _, _ => none

end Kind

/-- The value a word stands for. -/
def ofWord? (w : String) : Option Kind :=
  if w = "None" ∨ w = "True" ∨ w = "False" then some (.other true)
  else if w = "set" then some .maker
  else none

/-- What follows texts of a kind side by side; texts of both kinds do not stand side by side. -/
def afterTexts? (bytes : Bool) : List Token → Option (List Token)
  | .text b :: rest => if b = bytes then afterTexts? bytes rest else none
  | rest => some rest

/-! ### Room

Values are read by rules that call one another, and only so many of them may be at work at once.
What is left for a value is its room; where a value stands inside another one tells how much of it
is gone. -/

/-- The rules that may be at work at once. -/
def roomLimit : Nat := 6000

/-- The room for a value that holds no others. -/
def leafRoom : Nat := 25

/-- The room for texts. -/
def textRoom : Nat := 27

/-- The room for a call. -/
def callRoom : Nat := 49

/-- What a sign takes of the room. -/
def signCost : Nat := 1

/-- What a place inside brackets takes of the room. -/
structure Costs where
  first : Nat
  second : Nat
  later : Nat

/-- The places of a row in brackets. -/
def rowCosts : Costs := ⟨28, 30, 31⟩

/-- The places of a set or a table. -/
def braceCosts : Costs := ⟨29, 30, 30⟩

/-- The places of a row without brackets. -/
def bareCosts : Costs := ⟨0, 2, 2⟩

/-! ### Values -/

/-- The call that makes an empty set. -/
def call? (room : Nat) : Kind → List Token → Option (Kind × List Token)
  | .maker, .mark '(' :: .mark ')' :: rest =>
    if room < callRoom then none else some (.other false, rest)
  | k, rest => some (k, rest)

mutual

/-- The value at the start; `fuel` bounds the values begun. -/
def value? (fuel room : Nat) (ts : List Token) : Option (Kind × List Token) :=
  match fuel with
  | 0 => none
  | fuel + 1 => do
    let (left, rest) ← match ts with
      | .mark '+' :: rest | .mark '-' :: rest => do
        let (k, rest) ← atom? fuel (room - signCost) rest
        pure (← k.withSign?, rest)
      | ts => atom? fuel room ts
    match rest with
    | .mark '+' :: rest | .mark '-' :: rest => do
      let (right, rest) ← atom? fuel room rest
      return (← left.sum? right, rest)
    | rest => return (left, rest)

/-- The value at the start, without a sign. -/
def atom? (fuel room : Nat) (ts : List Token) : Option (Kind × List Token) :=
  match fuel with
  | 0 => none
  | fuel + 1 =>
    if room < leafRoom then none
    else do
      let (k, rest) ← match ts with
        | .number imaginary :: rest => some (if imaginary then .imaginary else .real, rest)
        | .text bytes :: rest =>
          if room < textRoom then none else (afterTexts? bytes rest).map (.other true, ·)
        | .dots :: rest => some (.other true, rest)
        | .word w :: rest => (ofWord? w).map (·, rest)
        | .mark '(' :: .mark ')' :: rest =>
          if room < rowCosts.first + leafRoom then none else some (.other true, rest)
        | .mark '(' :: rest => group? fuel room rest
        | .mark '\x7b' :: .mark '\x7d' :: rest =>
          if room < braceCosts.first + leafRoom then none else some (.other false, rest)
        | .mark '\x7b' :: rest => braces? fuel room rest
        | _ => none
      call? room k rest

/-- A value in brackets, or a row of values. -/
def group? (fuel room : Nat) (ts : List Token) : Option (Kind × List Token) :=
  match fuel with
  | 0 => none
  | fuel + 1 => do
    let (first, rest) ← value? fuel (room - rowCosts.first) ts
    match rest with
    | .mark ')' :: rest => return (first, rest)
    | rest => do
      let (ks, rest) ←
        items? fuel (room - rowCosts.second) (room - rowCosts.later) ')' rest
      if first.isValue && ks.all Kind.isValue then
        return (.other (first.isKey && ks.all Kind.isKey), rest)
      else none

/-- A set or a table. -/
def braces? (fuel room : Nat) (ts : List Token) : Option (Kind × List Token) :=
  match fuel with
  | 0 => none
  | fuel + 1 => do
    let next := room - braceCosts.second
    let later := room - braceCosts.later
    let (first, rest) ← value? fuel (room - braceCosts.first) ts
    if !first.isKey then none
    else
      match rest with
      | .mark ':' :: rest => do
        let (v, rest) ← value? fuel (room - braceCosts.first) rest
        if !v.isValue then none else return (.other false, ← entries? fuel next rest)
      | rest => do
        let (ks, rest) ← items? fuel next later '\x7d' rest
        if ks.all Kind.isKey then return (.other false, rest) else none

/-- The values after a first one, up to the closing bracket, with the room for the next of them and
for those after it. -/
def items? (fuel next later : Nat) (closing : Char) (ts : List Token) :
    Option (List Kind × List Token) :=
  match fuel with
  | 0 => none
  | fuel + 1 =>
    match ts with
    | .mark ',' :: .mark c :: rest =>
      if c = closing then if next < leafRoom then none else some ([], rest)
      else do
        let (k, rest) ← value? fuel next (.mark c :: rest)
        let (ks, rest) ← items? fuel later later closing rest
        return (k :: ks, rest)
    | .mark ',' :: rest => do
      let (k, rest) ← value? fuel next rest
      let (ks, rest) ← items? fuel later later closing rest
      return (k :: ks, rest)
    | .mark c :: rest => if c = closing then some ([], rest) else none
    | _ => none

/-- The entries of a table after the first one, up to the closing brace. -/
def entries? (fuel room : Nat) (ts : List Token) : Option (List Token) :=
  match fuel with
  | 0 => none
  | fuel + 1 =>
    match ts with
    | .mark '\x7d' :: rest => some rest
    | .mark ',' :: .mark '\x7d' :: rest => if room < leafRoom then none else some rest
    | .mark ',' :: rest => do
      let (key, rest) ← value? fuel room rest
      match rest with
      | .mark ':' :: rest => do
        let (v, rest) ← value? fuel room rest
        if key.isKey && v.isValue then entries? fuel room rest else none
      | _ => none
    | _ => none

end

/-- The tokens are those of one value, or of a row of values without brackets. -/
def isWhole (ts : List Token) : Bool :=
  let fuel := 4 * ts.length + 4
  match value? fuel (roomLimit - bareCosts.first) ts with
  | some (k, []) => k.isValue
  | some (first, rest) =>
    let items := items? fuel (roomLimit - bareCosts.second) (roomLimit - bareCosts.later) ')'
      (rest ++ [.mark ')'])
    match items with
    | some (ks, []) => first.isValue && ks.all Kind.isValue
    | _ => false
  | none => false

/-- The text stands for a value; one with a zero character or half a pair does not. -/
def isValue (cs : List Char) : Bool :=
  !(Text.codes cs).any (fun n => n == 0 || Text.isHalf n) && (tokens? cs).any isWhole

end RapidUpload.Console.Literal
