import RouteCatalog.Text.Basic

/-!
# Positions in a configuration text

A cursor is what is left of a text together with the line and column it stands at. A byte order mark
takes no column. Line ends are the line feed, U+0085, U+2028 and U+2029.
-/

namespace RouteCatalog

namespace Yaml

/-- Does the character end a line? -/
def isBreak (character : Char) : Bool :=
  character == '\n' || character == '\x85' || character == '\u2028' || character == '\u2029'

/-- Is there nothing here, or a space, a tab or a line end? -/
def isGap : Option Char → Bool
  | none => true
  | some character => character == ' ' || character == '\t' || isBreak character

/-- Is there nothing here, or a space or a line end? -/
def isSpaceOrEnd : Option Char → Bool
  | none => true
  | some character => character == ' ' || isBreak character

/-- Is there nothing here, or a line end? -/
def isLineEnd : Option Char → Bool
  | none => true
  | some character => isBreak character

/-- A letter, digit, hyphen or underscore of ASCII, of which names consist. -/
def isNameCharacter (character : Char) : Bool :=
  character.isAlphanum || character == '-' || character == '_'

/-- A place in a text. -/
structure Cursor where
  rest : Text
  index : Nat := 0
  line : Nat := 0
  column : Nat := 0
  deriving DecidableEq, Repr

namespace Cursor

/-- The next character. -/
def peek (cursor : Cursor) : Option Char :=
  cursor.rest.head?

/-- The character some places ahead. -/
def peekAt (cursor : Cursor) (distance : Nat) : Option Char :=
  cursor.rest[distance]?

/-- Go past one character. -/
def next (cursor : Cursor) : Cursor :=
  match cursor.rest with
  | [] => cursor
  | character :: rest =>
    if isBreak character then
      { rest, index := cursor.index + 1, line := cursor.line + 1, column := 0 }
    else
      { rest, index := cursor.index + 1, line := cursor.line
        column := if character = '\ufeff' then cursor.column else cursor.column + 1 }

/-- Go past several characters. -/
def advance : Cursor → Nat → Cursor
  | cursor, 0 => cursor
  | cursor, count + 1 => advance cursor.next count

/-- The characters of a kind at this place, and the place after them. -/
def span (cursor : Cursor) (kind : Char → Bool) : Text × Cursor :=
  let found := cursor.rest.takeWhile kind
  (found, cursor.advance found.length)

/-- Go past all characters of a kind. -/
def skip (cursor : Cursor) (kind : Char → Bool) : Cursor :=
  (cursor.span kind).2

/-- Go past a line end, if there is one; what it contributes to a scalar is a line feed, or the
character itself if it is one of the last two line ends. -/
def lineBreak (cursor : Cursor) : Text × Cursor :=
  match cursor.peek with
  | some character =>
    if isBreak character then
      ([if character = '\x85' then '\n' else character], cursor.next)
    else ([], cursor)
  | none => ([], cursor)

/-- Does the text continue with a mark of three characters and a gap? -/
def atMark (cursor : Cursor) (mark : Char) : Bool :=
  cursor.rest.take 3 == [mark, mark, mark] && isGap (cursor.peekAt 3)

/-- Does the text continue with a mark between documents? -/
def atDocumentMark (cursor : Cursor) : Bool :=
  cursor.atMark '-' || cursor.atMark '.'

/-- Go past a comment, up to its line end. -/
def skipComment (cursor : Cursor) : Cursor :=
  if cursor.peek = some '#' then cursor.skip fun character => !isBreak character else cursor

end Cursor

end Yaml

end RouteCatalog
