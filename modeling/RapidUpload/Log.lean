/-!
# Log lines

What the library tells about its work: a level, the part of the library that speaks, and a text
in which the time a step took and its speed stand as blanks, since only a clock fills them.
-/

namespace RapidUpload.Log

/-- How much a line matters. -/
inductive Level where
  | debug | info | warning | error
deriving DecidableEq

/-- The number of a level; a channel shows the lines at its own number or above. -/
def Level.number : Level → Int
  | .debug => 10
  | .info => 20
  | .warning => 30
  | .error => 40

/-- The name of a level. -/
def Level.name : Level → String
  | .debug => "DEBUG"
  | .info => "INFO"
  | .warning => "WARNING"
  | .error => "ERROR"

/-- The part of the library that speaks. -/
inductive Channel where
  | api | client | coordinator | negotiator | sampler | spill | part | finalize | file
deriving DecidableEq

/-- The name of a channel. -/
def Channel.name : Channel → String
  | .api => "alidrive.api"
  | .client => "alidrive.client"
  | .coordinator => "alidrive.upload.coordinator"
  | .negotiator => "alidrive.upload.negotiator"
  | .sampler => "alidrive.upload.sampler"
  | .spill => "alidrive.upload.spill"
  | .part => "alidrive.upload.part"
  | .finalize => "alidrive.upload.finalize"
  | .file => "alidrive.upload.file"

/-- A piece of a line. -/
inductive Piece where
  | text (s : String)
  /-- The seconds a step took. -/
  | elapsed
  /-- The kilobytes a second of a step. -/
  | speed

instance : Coe String Piece := ⟨Piece.text⟩

/-- A line. -/
structure Line where
  level : Level
  channel : Channel
  pieces : List Piece

/-- The text of a line, given the words for the time and the speed. -/
def Line.text (elapsed speed : String) (l : Line) : String :=
  String.join (l.pieces.map fun
    | .text s => s
    | .elapsed => elapsed
    | .speed => speed)

end RapidUpload.Log
