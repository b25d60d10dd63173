import RouteCatalog.Delimiter.Scanner

/-!
# Removing comments

A line comment runs from `//` up to the next line feed, which stays. A block comment runs from
`/*` to the first `*/` after those two characters, or to the end of the text. Inside a string
literal neither begins a comment. The scanner reads only the text that is kept, so a comment
changes neither the open literal nor the groups.
-/

namespace RouteCatalog

/-- What the next character belongs to. -/
inductive CommentState where
  /-- Text that is kept, unless a comment begins here. -/
  | code
  | lineComment
  /-- The star that opens a block comment; it does not also begin the closing mark. -/
  | openingStar
  | blockComment
  /-- The slash that closes a block comment. -/
  | closingSlash
  deriving DecidableEq, Repr

/-- The text without its comments, from a place where `scanner` has read everything kept so far. -/
def stripCommentsFrom : CommentState → Scanner → Text → Text
  | _, _, [] => []
  | .code, scanner, character :: rest =>
    if scanner.inString = false ∧ character = '/' ∧ rest.head? = some '/' then
      stripCommentsFrom .lineComment scanner rest
    else if scanner.inString = false ∧ character = '/' ∧ rest.head? = some '*' then
      stripCommentsFrom .openingStar scanner rest
    else character :: stripCommentsFrom .code (scanner.feed character) rest
  | .lineComment, scanner, character :: rest =>
    if character = '\n' then character :: stripCommentsFrom .code (scanner.feed character) rest
    else stripCommentsFrom .lineComment scanner rest
  | .openingStar, scanner, _ :: rest => stripCommentsFrom .blockComment scanner rest
  | .blockComment, scanner, character :: rest =>
    if character = '*' ∧ rest.head? = some '/' then stripCommentsFrom .closingSlash scanner rest
    else stripCommentsFrom .blockComment scanner rest
  | .closingSlash, scanner, _ :: rest => stripCommentsFrom .code scanner rest

/-- The text without the comments that stand outside string literals. -/
def stripComments (text : Text) : Text :=
  stripCommentsFrom .code .start text

end RouteCatalog
