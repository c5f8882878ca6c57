/-!
# Arguments of a command

Arguments as a shell hands them over: options that start with a dash, and operands.

* `Args.read`: sorts arguments into options and operands.  A value follows its option after an
  equals sign or as the next argument; after a bare `--` there are only operands.
-/

namespace RapidUpload

/-- What an option is given with. -/
inductive OptionKind where
  /-- Nothing. -/
  | flag
  /-- A value; the option may also go by a letter. -/
  | value (letter : Option Char)

/-- An option of a command, by its name without dashes. -/
structure OptionSpec where
  name : String
  kind : OptionKind

/-- Arguments sorted. -/
structure Args where
  flags : List String
  /-- Options with their values, in order. -/
  values : List (String × String)
  operands : List String

namespace Args

/-- No arguments. -/
def empty : Args := ⟨[], [], []⟩

/-- With a flag before. -/
def withFlag (name : String) (a : Args) : Args := { a with flags := name :: a.flags }

/-- With an option and its value before. -/
def withValue (name value : String) (a : Args) : Args :=
  { a with values := (name, value) :: a.values }

/-- With an operand before. -/
def withOperand (operand : String) (a : Args) : Args :=
  { a with operands := operand :: a.operands }

/-- A flag is given. -/
def has (a : Args) (name : String) : Bool := a.flags.contains name

/-- The value an option has, the last one if it is given again. -/
def value? (a : Args) (name : String) : Option String := a.values.reverse.lookup name

/-- An argument that starts with a dash, taken apart. -/
inductive Dashed where
  /-- `--name` or `--name=value`. -/
  | long (name : String) (value : Option String)
  /-- `-lvalue`: a letter and what follows it. -/
  | short (letter : Char) (rest : String)

/-- The parts before and after the first equals sign. -/
def equation (cs : List Char) : String × Option String :=
  match cs.dropWhile (· != '=') with
  | [] => (String.ofList cs, none)
  | _ :: value => (String.ofList (cs.takeWhile (· != '=')), some (String.ofList value))

/-- Takes an argument apart; a single dash is an operand. -/
def dashed? (arg : String) : Option Dashed :=
  match arg.toList with
  | '-' :: '-' :: cs => let (name, value) := equation cs; some (.long name value)
  | '-' :: letter :: rest => some (.short letter (String.ofList rest))
  | _ => none

/-- The option that goes by a letter. -/
def byLetter? (specs : List OptionSpec) (letter : Char) : Option String :=
  (specs.find? fun s =>
    match s.kind with
    | .value (some l) => l = letter
    | _ => false).map OptionSpec.name

/-- Sorts arguments, or none where they make no sense. -/
def read (specs : List OptionSpec) : List String → Option Args
  | [] => some empty
  | "--" :: rest => some ⟨[], [], rest⟩
  | arg :: rest =>
    match dashed? arg with
    | none => (read specs rest).map (withOperand arg)
    | some (.short letter attached) =>
      match byLetter? specs letter, attached, rest with
      | none, _, _ => none
      | some _, "", [] => none
      | some name, "", value :: rest => (read specs rest).map (withValue name value)
      | some name, value, rest => (read specs rest).map (withValue name value)
    | some (.long name value) =>
      match specs.find? (·.name = name), value, rest with
      | none, _, _ => none
      | some ⟨_, .flag⟩, none, rest => (read specs rest).map (withFlag name)
      | some ⟨_, .flag⟩, some _, _ => none
      | some ⟨_, .value _⟩, some value, rest => (read specs rest).map (withValue name value)
      | some ⟨_, .value _⟩, none, [] => none
      | some ⟨_, .value _⟩, none, value :: rest => (read specs rest).map (withValue name value)

end Args

end RapidUpload
