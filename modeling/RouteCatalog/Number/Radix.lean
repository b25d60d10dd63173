import RouteCatalog.Number.Decimal

/-!
# Integers in bases of two powers

Integers in base two, eight and sixteen. The digits may have a sign, blanks around them and the mark
of their own base before them, such as `0x`; they may be of any script, and there may be any number
of them.
-/

namespace RouteCatalog

/-- A base whose integers can be marked. -/
inductive Radix where
  | binary
  | octal
  | hexadecimal
  deriving DecidableEq, Repr

namespace Radix

/-- The number of digits of the base. -/
def size : Radix → Nat
  | binary => 2
  | octal => 8
  | hexadecimal => 16

/-- The letter that marks the base after a zero. -/
def letter : Radix → Char
  | binary => 'b'
  | octal => 'o'
  | hexadecimal => 'x'

/-- The value of a digit or letter of ASCII, whatever the base. -/
def symbolValue? (symbol : Char) : Option Nat :=
  if symbol.isDigit then some (symbol.toNat - 48)
  else if symbol.isAlpha then some (symbol.toLower.toNat - 87)
  else none

/-- The value of a digit of the base. -/
def digit? (radix : Radix) (symbol : Char) : Option Nat :=
  (symbolValue? symbol).filter (· < radix.size)

/-- A digit stands for a number below the size of the base. -/
theorem digit?_lt {radix : Radix} {symbol : Char} {value : Nat}
    (digit : radix.digit? symbol = some value) : value < radix.size := by
  simpa using (Option.filter_eq_some_iff.mp digit).2

/-- The number that digits denote, the first being the most significant. -/
def value (radix : Radix) (digits : List Nat) : Nat :=
  digits.foldl (fun total digit => radix.size * total + digit) 0

/-- Digits without the mark of their base. -/
def dropMark (radix : Radix) : Text → Text
  | '0' :: letter :: rest =>
    if letter.toLower = radix.letter then rest else '0' :: letter :: rest
  | text => text

/-- Read an integer in the base. -/
def read? (radix : Radix) (text : Text) : Option Int := do
  let (negative, body) := takeSign (← trimmedNumeral? text)
  let digits ← (radix.dropMark body).mapM radix.digit?
  if digits.isEmpty then none else some (signedInt negative (radix.value digits))

end Radix

end RouteCatalog
