import RapidUpload.Command.Args
import RapidUpload.Path

/-!
# Commands

What the program is asked to do: to upload a file, or to preview one.

* `Command.read`: the command that arguments ask for, or the status to leave with.
-/

namespace RapidUpload

/-- The status a program leaves with. -/
inductive Status where
  /-- All is done. -/
  | done
  /-- The command could not be carried out. -/
  | failed
  /-- The arguments ask for nothing known. -/
  | misused
deriving DecidableEq

/-- The number of a status. -/
def Status.code : Status → Nat
  | .done => 0
  | .failed => 1
  | .misused => 2

/-- How the account is reached. -/
structure Access where
  token : Option String
  driveId : Option String
  proxy : Option String
  insecure : Bool

/-- The upload of a local file. -/
structure UploadOrder where
  file : String
  parent : String
  name : Option String
  tempFolder : Option String
  rapid : Bool

/-- A preview of a file of the drive. -/
structure PreviewOrder where
  kind : String
  fileId : String

/-- What the program is asked to do. -/
inductive Command where
  | upload (order : UploadOrder) (access : Access)
  | preview (order : PreviewOrder) (access : Access)

namespace Command

/-- The options of every command. -/
def accessOptions : List OptionSpec := [
  ⟨"help", .flag⟩, ⟨"token", .value (some 't')⟩, ⟨"drive-id", .value none⟩,
  ⟨"proxy", .value none⟩, ⟨"insecure", .flag⟩]

/-- The options of an upload. -/
def uploadOptions : List OptionSpec := [
  ⟨"parent", .value (some 'p')⟩, ⟨"name", .value (some 'n')⟩, ⟨"no-rapid", .flag⟩,
  ⟨"temp-dir", .value none⟩] ++ accessOptions

/-- The name of the command and its arguments. Before the name only help may be asked for. -/
def choose (help : Bool) : List String → Except Status (String × List String)
  | [] => .error (if help then .done else .misused)
  | arg :: rest =>
    if arg = "--help" then choose true rest
    else if arg = "--" then
      match rest with
      | name :: rest => if help then .error .done else .ok (name, rest)
      | [] => .error (if help then .done else .misused)
    else if (Args.dashed? arg).isSome then .error .misused
    else if help then .error .done
    else .ok (arg, rest)

/-- The arguments of a command sorted, unless they make no sense or ask for help. -/
def sort (specs : List OptionSpec) (args : List String) : Except Status Args :=
  match Args.read specs args with
  | none => .error .misused
  | some a => if a.has "help" then .error .done else .ok a

/-- How the account is reached; the environment may hold a token. -/
def access (held : Option String) (a : Args) : Access :=
  { token := a.value? "token" <|> held.filter (· != "")
    driveId := a.value? "drive-id"
    proxy := a.value? "proxy"
    insecure := a.has "insecure" }

/-- The command that arguments ask for. A name that stands for no command may still be a call for
help. -/
def read (held : Option String) (args : List String) : Except Status Command := do
  match ← choose false args with
  | ("upload", rest) =>
    let a ← sort uploadOptions rest
    if (a.value? "temp-dir").any Path.isBroken then throw .misused
    match a.operands with
    | [file] =>
      let order : UploadOrder :=
        { file := file
          parent := (a.value? "parent").getD "root"
          name := a.value? "name"
          tempFolder := a.value? "temp-dir"
          rapid := !a.has "no-rapid" }
      return .upload order (access held a)
    | _ => throw .misused
  | ("preview", rest) =>
    let a ← sort accessOptions rest
    match a.operands with
    | [kind, fileId] => return .preview ⟨kind, fileId⟩ (access held a)
    | _ => throw .misused
  | (unknown, rest) =>
    let _ ← choose false (unknown :: rest)
    throw .misused

end Command

end RapidUpload
