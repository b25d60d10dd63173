import RouteCatalog.Text.Printable
import RouteCatalog.Text.Basic

/-!
# Quoted texts in descriptions

A text is shown in single quotes, or in double quotes when it has a single quote and no double
one. The quote in use, backslashes, line ends, tabs and characters that are not printable are
escaped; the shortest of the three hexadecimal forms is taken.
-/

namespace RouteCatalog

namespace Text

/-- A number in lower-case hexadecimal digits, with leading zeros up to a width. -/
def hexadecimal (width number : Nat) : Text :=
  let digits := Nat.toDigits 16 number
  List.replicate (width - digits.length) '0' ++ digits

/-- One character as it appears between quotes. -/
def escapeShown (quote character : Char) : Text :=
  let code := character.toNat
  if character = quote ∨ character = '\\' then ['\\', character]
  else if character = '\n' then ['\\', 'n']
  else if character = '\r' then ['\\', 'r']
  else if character = '\t' then ['\\', 't']
  else if isPrintable character then [character]
  else if code < 0x100 then '\\' :: 'x' :: hexadecimal 2 code
  else if code < 0x10000 then '\\' :: 'u' :: hexadecimal 4 code
  else '\\' :: 'U' :: hexadecimal 8 code

/-- The text in quotes. -/
def quoted (text : Text) : Text :=
  let quote := if text.contains '\'' && !text.contains '"' then '"' else '\''
  quote :: text.flatMap (escapeShown quote) ++ [quote]

end Text

end RouteCatalog
