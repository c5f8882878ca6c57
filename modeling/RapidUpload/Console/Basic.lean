import RapidUpload.Fault

/-!
# Consoles

What a program shows its lines on.  A line may hold markup: a word in brackets styles what follows
it, up to the same word behind a slash.

* `Console`: what is shown of a line, and of a value.
* `Console.encoded`: a console that writes bytes.
-/

namespace RapidUpload

/-- What lines are shown on. -/
structure Console where
  /-- What is shown of a line with markup. -/
  print : String → Except Fault String
  /-- The markup of a text that is shown as it is. -/
  escape : String → String
  /-- What is shown of a value. -/
  printValue : Json → Except Fault String

namespace Console

/-- What is shown, where it has bytes. -/
def encode (shown : Except Fault String) : Except Fault String := do
  let text ← shown
  if Text.hasHalf text then throw (.undefined .halfPair) else return text

/-- The console over an output of bytes, which half of a pair has none of. -/
def encoded (c : Console) : Console :=
  { c with
    print := fun line => encode (c.print line)
    printValue := fun v => encode (c.printValue v) }

end Console

end RapidUpload
