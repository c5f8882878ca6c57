import RapidUpload.Log

/-!
# Loggers

The levels of loggers.  A logger without a level has that of the nearest logger above it, and above
all of them stands the root.  Setting up gives all loggers of the package one level; a new HTTP
client sets the level of its own, unless the application handles the lines of all loggers itself.

* `Loggers.shownFrom`: the lowest level that a logger shows.
* `Loggers.shows`: a line is shown.
-/

namespace RapidUpload

/-- The settings of a logger: the lowest level it shows, zero for that of the logger above, and
whether its lines go on to the logger above. -/
structure LoggerSettings where
  level : Int
  propagates : Bool

/-- The loggers that were given settings; another one has no level and passes all on. -/
structure Loggers where
  settings : List (String × LoggerSettings)

namespace Loggers

/-- The level at which warnings are shown, and nothing below. -/
def warningLevel : Int := Log.Level.warning.number

/-- The name a logger is kept by; the root goes by two. -/
def key (name : String) : String := if name = "root" then "" else name

/-- The root shows warnings, and no other logger has settings yet. -/
def fresh : Loggers := ⟨[(key "root", ⟨warningLevel, true⟩)]⟩

/-- The settings of a logger. -/
def get (l : Loggers) (name : String) : LoggerSettings :=
  (l.settings.lookup (key name)).getD ⟨0, true⟩

/-- Gives a logger its settings. -/
def set (l : Loggers) (name : String) (s : LoggerSettings) : Loggers :=
  ⟨(key name, s) :: l.settings⟩

/-- The loggers of the package. -/
def names : List String :=
  ["alidrive", "alidrive.api", "alidrive.client", "alidrive.upload", "alidrive.upload.coordinator",
    "alidrive.upload.negotiator", "alidrive.upload.sampler", "alidrive.upload.spill",
    "alidrive.upload.part", "alidrive.upload.finalize", "alidrive.upload.file"]

/-- Gives the package's loggers one level and lets their lines go on. -/
def setUp (l : Loggers) (level : Int) : Loggers :=
  names.foldl (fun l name => l.set name ⟨level, true⟩) l

/-- Takes a logger into use: its lines go on, and unless the application handles all lines it
shows warnings only. -/
def takeUp (l : Loggers) (name : String) (handled : Bool) : Loggers :=
  l.set name ⟨if handled then (l.get name).level else warningLevel, true⟩

/-- What a new HTTP client does to the loggers. -/
def newClient (l : Loggers) (level : Int) (handled : Bool) : Loggers :=
  let name := Log.Channel.api.name
  let l := l.takeUp name handled
  if handled then l else l.set name ⟨level, (l.get name).propagates⟩

/-- Keeps the lines of a logger from going on. -/
def isolate (l : Loggers) (name : String) : Loggers :=
  l.set name ⟨(l.get name).level, false⟩

/-! ### What is shown -/

/-- The level of the logger of the parts of a name, the last one first, or of the nearest one above
it that has a level. -/
def levelOf (l : Loggers) : List String → Int
  | [] => (l.get "").level
  | part :: above =>
    let own := (l.get (String.intercalate "." (part :: above).reverse)).level
    if own = 0 then levelOf l above else own

/-- The lowest level that a logger shows. -/
def shownFrom (l : Loggers) (name : String) : Int := l.levelOf (name.splitOn ".").reverse

/-- The line is shown by the logger of its channel. -/
def shows (l : Loggers) (line : Log.Line) : Bool :=
  l.shownFrom line.channel.name ≤ line.level.number

end Loggers

end RapidUpload
