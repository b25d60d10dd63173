import RouteCatalog.Handler.Declaration

/-!
# Reading descriptions

The description of an endpoint is the documentation comment that stands directly above the exported
constant `main`, with the stars and blanks at the ends of its lines removed.
-/

namespace RouteCatalog

/-- The body of a documentation comment that begins here and is followed by `main`. -/
def descriptionBody? (text : Text) : Option Text := do
  let opened ← Text.after? "/**".toList text
  let (body, following) ← Text.breakAt? "*/".toList opened
  let following ← afterConstant? "main".toList following.trimStart
  if endsWord following then some body else none

/-- A line without blanks at its ends and without the stars before its words. -/
def descriptionLine (line : Text) : Text :=
  Text.trim (line.trim.dropWhile (· = '*'))

/-- The lines of a comment in one line; none if nothing is left. -/
def descriptionOfBody? (body : Text) : Option Text :=
  let lines := (body.lines.map descriptionLine).filter fun line => !line.isEmpty
  if lines.isEmpty then none else some (Text.join [' '] lines)

/-- The description that source text gives its exported `main`. -/
def readDescription? (source : Text) : Option Text :=
  (Text.firstMatch descriptionBody? source).bind descriptionOfBody?

end RouteCatalog
