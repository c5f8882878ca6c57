import RapidUpload.Console.Basic
import RapidUpload.Console.Markup
import RapidUpload.Json.Printer
import RapidUpload.Text.Cell

/-!
# Lines of the console

What a text comes to on the console: its markup is carried out, some controls vanish, and tabs
reach to the next of the places eight cells apart.

* `layOut`: the characters of a text as they stand on the console.
* `render`: what a text with markup comes to.
* `standard`: the console that carries markup out in full.
-/

namespace RapidUpload.Console

/-- The controls that are never shown: the bell, the step back, the vertical tab, the new page and
the return. -/
def isSilent (c : Char) : Bool :=
  [7, 8, 11, 12, 13].contains c.toNat

/-- The characters of a text that are shown. -/
def loud (cs : List Char) : List Char := cs.filter fun c => !isSilent c

/-! ### Tabs -/

/-- The cells between the places tabs reach to. -/
def tabWidth : Nat := 8

/-- A part of a line with the spaces of the tab behind it, one at least. -/
def tabbed (part : List Char) : List Char :=
  let part := part ++ [' ']
  part ++ List.replicate ((tabWidth - Text.Cells.measure part % tabWidth) % tabWidth) ' '

/-- A line with its tabs filled. Each part starts where a tab reaches to. -/
def fillTabs (line : List Char) : List Char :=
  let parts := Text.divide (· == '\t') line
  parts.dropLast.flatMap tabbed ++ parts.getLastD []

/-- The characters of a text as they stand on the console, with the end of the last line. -/
def layOut (cs : List Char) : String :=
  let lines := (Text.divide (· == '\n') (loud cs)).map fillTabs
  String.ofList (List.intercalate ['\n'] lines ++ ['\n'])

/-! ### Styles -/

/-- The characters of a span that are shown. -/
def inside (text : List Char) (s : Markup.Span) : List Char :=
  loud ((text.take s.stop).drop s.start)

/-- The spans that style something. A text that is cut into lines or at tabs loses the spans with
nothing in a line. -/
def styled (m : Markup.Marked) : List Markup.Span :=
  if m.text.contains '\n' then m.spans.filter fun s => (inside m.text s).any (· != '\n')
  else if m.text.contains '\t' then m.spans.filter fun s => !(inside m.text s).isEmpty
  else m.spans

/-- What a text with markup comes to; the styles of its spans are looked up on the way. -/
def render (markup : String) : Except Fault String := do
  let m ← Markup.read markup.toList
  (styled m).forM fun s => Style.check s.words
  return layOut m.text

/-- The console that carries markup out in full and shows a value item by item. -/
def standard : Console where
  print := render
  escape := Markup.escape
  printValue v := .ok (layOut v.pretty.toList)

end RapidUpload.Console
