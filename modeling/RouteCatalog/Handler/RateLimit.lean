import RouteCatalog.Handler.Declaration
import RouteCatalog.RateLimit

/-!
# Reading rate limits

A handler states its limit as `export const rateLimit = ...`, perhaps with a type before the equals
sign. The literal ends at a semicolon or at the end of its line. Where nothing but blanks stands
before the semicolon or the end of the text, the literal is empty if one of those blanks is not a
line feed; otherwise this is no declaration and a later one may be.
-/

namespace RouteCatalog

/-- Does the character end the literal of a rate limit? -/
def endsLimit (character : Char) : Bool :=
  character == ';' || character == '\n'

/-- What follows the type of a rate limit, if there is one: a colon and at least one character up
to the next equals sign. -/
def skipLimitType (text : Text) : Text :=
  match text.trimStart with
  | ':' :: rest =>
    if (rest.takeWhile (· ≠ '=')).isEmpty then ':' :: rest else rest.dropWhile (· ≠ '=')
  | following => following

/-- The literal after the equals sign of a rate limit. -/
def limitLiteral? (text : Text) : Option Text :=
  match text.trimStart with
  | [] => blankLiteral?
  | first :: rest =>
    if first = ';' then blankLiteral?
    else some ((first :: rest).takeWhile fun character => !endsLimit character)
where
  /-- The literal where only blanks stand in its place. -/
  blankLiteral? : Option Text :=
    if (text.takeWhile isBlank).any (· ≠ '\n') then some [] else none

/-- The literal of an exported rate limit. -/
def limitAt? (text : Text) : Option Text := do
  let following ← afterConstant? "rateLimit".toList text
  match skipLimitType following with
  | '=' :: rest => limitLiteral? rest
  | _ => none

/-- The rate limit that source text without comments exports. -/
def readRateLimit (source : Text) : RateLimit :=
  match Text.firstMatch limitAt? source with
  | none => .unset
  | some literal => .ofLiteral literal

end RouteCatalog
