import RapidUpload.Console.Color
import RapidUpload.Fault

/-!
# Styles of the console

What words ask for, and the normal form of a tag: tags that ask for the same have the same one.

* `Style.add`: a style with what words ask for.
* `Style.normal`: the normal form of a tag.
-/

namespace RapidUpload.Console

/-- The ways to draw characters, each with a second name. -/
def attributes : List (String × String) := [
  ("bold", "b"), ("dim", "d"), ("italic", "i"), ("underline", "u"), ("blink", "blink"),
  ("blink2", "blink2"), ("reverse", "r"), ("conceal", "c"), ("strike", "s"),
  ("underline2", "uu"), ("frame", "frame"), ("encircle", "encircle"), ("overline", "o")]

/-- The way to draw that a word names. -/
def attribute? (word : String) : Option String :=
  (attributes.find? fun (name, second) => word = name || word = second).map Prod.fst

/-- A style: the ways to draw that are switched on or off, the last switch first, the colors, and
the target of a link. -/
structure Style where
  switches : List (String × Bool)
  color : Option String
  background : Option String
  link : Option String

namespace Style

/-- Asks for nothing. -/
def plain : Style := ⟨[], none, none, none⟩

/-- Why words make no style. -/
inductive Objection where
  /-- A word asks for nothing known. -/
  | unknown
  /-- A color has a component that is no number. -/
  | shade

/-- A word taken for a color. -/
def asColor (word : String) : Except Objection String :=
  match colored word with
  | .color => .ok (Text.small word)
  | .unknown => .error .unknown
  | .broken => .error .shade

/-- Adds what the words ask for; the first word that asks for nothing stops it. -/
def add (s : Style) (words : List String) : Except Objection Style :=
  match words with
  | [] => .ok s
  | word :: rest =>
    match Text.small word, rest with
    | "on", [] | "not", [] | "link", [] => .error .unknown
    | "on", color :: rest => do add { s with background := some (← asColor color) } rest
    | "not", name :: rest =>
      match attribute? name with
      | some a => add { s with switches := (a, false) :: s.switches } rest
      | none => .error .unknown
    | "link", target :: rest => add { s with link := some target } rest
    | name, rest =>
      match attribute? name with
      | some a => add { s with switches := (a, true) :: s.switches } rest
      | none => do add { s with color := some (← asColor name) } rest

/-- The words of a style, in a fixed order. -/
def text (s : Style) : String :=
  let drawn := attributes.filterMap fun (name, _) =>
    (s.switches.lookup name).map fun on => if on then name else "not " ++ name
  let words := drawn ++ s.color.toList ++ (s.background.map ("on " ++ ·)).toList
    ++ (s.link.map ("link " ++ ·)).toList
  if words.isEmpty then "none" else String.intercalate " " words

/-- The style that a text asks for; for none it asks with a word of its own. -/
def read (cs : List Char) : Except Objection Style :=
  if Text.trim Text.isSpace cs = "none".toList then .ok plain else plain.add (Text.words cs)

/-- The normal form of a tag: the words of its style, or itself in small letters when it asks for
nothing known. -/
def normal (tag : List Char) : Except Fault String :=
  match read tag with
  | .ok s => .ok s.text
  | .error .unknown => .ok (Text.small (String.ofList (Text.trim Text.isSpace tag)))
  | .error .shade => .error (.undefined .shade)

/-- A text that asks for nothing known asks for nothing; a broken color is a fault all the same. -/
def check (words : String) : Except Fault Unit :=
  match read words.toList with
  | .error .shade => .error (.undefined .shade)
  | _ => .ok ()

end Style

end RapidUpload.Console
