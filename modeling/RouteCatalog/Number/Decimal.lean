import RouteCatalog.Text.Blank
import RouteCatalog.Text.Digit

/-!
# Reading numbers

Number text may have blanks around it, a sign, digits of any script and single underscores between
digits. `readInteger?` and `readDecimal?` read such text. A `Decimal` is exact; rounding it is the
work of the binary format.
-/

namespace RouteCatalog

/-- The exact number `significand * 10 ^ exponent`, negated if `negative`. -/
structure Decimal where
  negative : Bool
  significand : Nat
  exponent : Int
  deriving DecidableEq, Repr

/-- The most digits that the text of an integer may have. -/
def maxIntegerDigits : Nat := 4300

/-- A number has more digits than `maxIntegerDigits`. -/
structure NumberTooLong where
  deriving DecidableEq, Repr

/-- One character of number text in ASCII: digits of any script become ASCII digits and blanks
outside ASCII become spaces. -/
def asciiNumeral? (character : Char) : Option Char :=
  if character.toNat < 128 then some character
  else if isBlank character then some ' '
  else (digitValue? character).map fun digit => Char.ofNat (48 + digit)

/-- The text without its underscores, each of which must stand between two digits. -/
def dropUnderscores? (afterDigit : Bool) : Text → Option Text
  | [] => some []
  | character :: rest =>
    if character = '_' then
      if afterDigit && (rest.head?.any isDigit) then dropUnderscores? false rest else none
    else (dropUnderscores? (isDigit character) rest).map (character :: ·)

/-- Number text without surrounding blanks, in ASCII. -/
def trimmedNumeral? (text : Text) : Option Text := do
  let ascii ← text.mapM asciiNumeral?
  return ((ascii.dropWhile isAsciiBlank).reverse.dropWhile isAsciiBlank).reverse

/-- Number text without surrounding blanks and without underscores, in ASCII. -/
def plainNumeral? (text : Text) : Option Text := do
  dropUnderscores? false (← trimmedNumeral? text)

/-- The sign at the beginning of a number (is it a minus?) and what follows it. -/
def takeSign : Text → Bool × Text
  | '-' :: rest => (true, rest)
  | '+' :: rest => (false, rest)
  | text => (false, text)

/-- The digits at the beginning of a text, as their values. -/
def leadingDigits (text : Text) : List Nat :=
  (text.takeWhile isDigit).filterMap digitValue?

/-- What follows the digits at the beginning of a text. -/
def afterDigits (text : Text) : Text :=
  text.dropWhile isDigit

/-- An integer with its sign. -/
def signedInt (negative : Bool) (magnitude : Nat) : Int :=
  if negative then -(magnitude : Int) else magnitude

/-- Read an integer of at most `maxIntegerDigits` digits. -/
def readInteger? (text : Text) : Option Int := do
  let plain ← plainNumeral? text
  let (negative, body) := takeSign plain
  let digits := leadingDigits body
  if digits.isEmpty || !(afterDigits body).isEmpty || maxIntegerDigits < digits.length then none
  else some (signedInt negative (digitsValue digits))

/-- The exponent that ends a decimal: nothing, or `e`, a sign and digits. -/
def readExponent? : Text → Option Int
  | [] => some 0
  | mark :: rest =>
    if mark = 'e' ∨ mark = 'E' then
      let (negative, body) := takeSign rest
      let digits := leadingDigits body
      if digits.isEmpty || !(afterDigits body).isEmpty then none
      else some (signedInt negative (digitsValue digits))
    else none

/-- Read a decimal without sign: digits with a point before, among or after them, and perhaps an
exponent. -/
def readMagnitude? (negative : Bool) (text : Text) : Option Decimal := do
  let whole := leadingDigits text
  let (fraction, following) :=
    match afterDigits text with
    | '.' :: rest => (leadingDigits rest, afterDigits rest)
    | following => ([], following)
  if whole.isEmpty && fraction.isEmpty then none
  else
    let exponent ← readExponent? following
    return ⟨negative, digitsValue (whole ++ fraction), exponent - fraction.length⟩

/-- Read a decimal with an optional sign. -/
def readDecimal? (text : Text) : Option Decimal :=
  let (negative, body) := takeSign text
  readMagnitude? negative body

/-- The digits of a natural number. -/
def natText (number : Nat) : Text :=
  Nat.toDigits 10 number

/-- The digits of an integer after its sign. -/
def intText : Int → Text
  | .ofNat magnitude => natText magnitude
  | .negSucc below => '-' :: natText (below + 1)

/-- Has an integer more digits than its text may have? Integers that are read in a base other than
ten may. -/
def isTooLong (number : Int) : Bool :=
  maxIntegerDigits < (natText number.natAbs).length

end RouteCatalog
