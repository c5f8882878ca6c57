import RapidUpload.Console.Literal
import RapidUpload.Text.Word
import RapidUpload.Text.Letter

/-!
# Handlers of tags

A tag that starts with an at sign hands its text over to a handler.  After its equals sign stand
the handler's name, its arguments in brackets, both, or a value.

* `isHandled`: what stands after the equals sign can be handed over.
-/

namespace RapidUpload.Console

/-- May stand in the name of a handler. -/
def isHandlerChar (c : Char) : Bool := c == '.' || c == '_' || Text.isLetter c

/-- What stands after the equals sign can be handed over. Arguments after a name stand on one
line. -/
def isHandled (parameters : List Char) : Bool :=
  let cs := Text.trim Text.isSpace parameters
  let arguments := cs.dropWhile (· != '(')
  if !(cs.takeWhile (· != '(')).all isHandlerChar then Literal.isValue cs
  else if arguments.isEmpty then true
  else if arguments.getLast? == some ')' && !arguments.contains '\n' then
    Literal.isValue arguments
  else Literal.isValue cs

end RapidUpload.Console
