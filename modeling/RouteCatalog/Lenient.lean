import RouteCatalog.Checked
import RouteCatalog.Number.Decimal
import RouteCatalog.Value

/-!
# Lenient reading of scalars

Where a document or a configuration should hold a flag or an integer, some other values are taken
for one. `asBool` and `asInteger` state which, and what is wrong with the others. Texts are read
strictly.
-/

namespace RouteCatalog

/-- A text. -/
def asText : Value → Checked Text
  | .text characters => .valid characters
  | _ => .fault .notText

/-- A text or nothing. -/
def asText? : Value → Checked (Option Text)
  | .null => .valid none
  | value => (asText value).map some

/-- The words for yes, in lower case. -/
def yesWords : List Text :=
  ["1".toList, "on".toList, "t".toList, "true".toList, "y".toList, "yes".toList]

/-- The words for no, in lower case. -/
def noWords : List Text :=
  ["0".toList, "off".toList, "f".toList, "false".toList, "n".toList, "no".toList]

/-- Two to the sixty-third, the bound of integers read from floating-point numbers. -/
def wideBound : Int := 0x8000000000000000

/-- The integer that a floating-point number is, within the bound. -/
def integerOfFloat (number : Binary64) : Checked Int :=
  match number with
  | .finite _ _ _ =>
    match number.toInt? with
    | none => .fault .fractionalInteger
    | some integer =>
      if -wideBound < integer ∧ integer < wideBound then .valid integer else .fault .integerTooLong
  | _ => .fault .infiniteInteger

/-- The flag that an integer is. -/
def flagOfInteger (integer : Int) : Checked Bool :=
  if integer = 0 then .valid false
  else if integer = 1 then .valid true
  else .fault .unreadableBool

/-- A flag: also zero and one, and words for yes and no in any case. -/
def asBool : Value → Checked Bool
  | .bool flag => .valid flag
  | .int number =>
    if -wideBound ≤ number ∧ number < wideBound then flagOfInteger number else .fault .notBool
  | .float number =>
    match integerOfFloat number with
    | .valid integer => flagOfInteger integer
    | .faulty _ => .fault .notBool
  | .text characters =>
    let word := characters.map Char.toLower
    if yesWords.contains word then .valid true
    else if noWords.contains word then .valid false
    else .fault .unreadableBool
  | _ => .fault .notBool

/-- The blanks that may surround an integer in a text. The information separators are not among
them. -/
def isIntegerSpace (character : Char) : Bool :=
  isBlank character && !(0x1c ≤ character.toNat && character.toNat ≤ 0x1f)

/-- What is left of a run of zeros after its first character: underscores among the zeros go with
them, and of nothing but zeros, or of zeros before a point, the last character stays. -/
def dropZerosAfter? (previous : Char) : Text → Option Text
  | [] => some [previous]
  | character :: rest =>
    if character = '0' ∨ character = '_' then dropZerosAfter? character rest
    else if character = '.' then some (previous :: character :: rest)
    else if character.isDigit ∨ character = '-' then some (character :: rest)
    else none

/-- A number without its leading zeros. A text that begins neither with a digit nor with a minus is
no number. -/
def dropLeadingZeros? : Text → Option Text
  | [] => none
  | first :: rest =>
    if first = '0' then dropZerosAfter? first rest
    else if first.isDigit ∨ first = '-' then some (first :: rest)
    else none

/-- The text without a point after which there are only zeros, at least one. -/
def dropZeroFraction (text : Text) : Text :=
  match text.dropWhile (· ≠ '.') with
  | _ :: first :: places =>
    if (first :: places).all (· = '0') then text.takeWhile (· ≠ '.') else text
  | _ => text

/-- Do two underscores stand side by side? -/
def hasDoubleUnderscore : Text → Bool
  | '_' :: '_' :: _ => true
  | _ :: rest => hasDoubleUnderscore rest
  | [] => false

/-- The text without its underscores, if they stand one at a time and not at an end. -/
def dropSingleUnderscores (text : Text) : Text :=
  if text.head? = some '_' ∨ text.getLast? = some '_' ∨ hasDoubleUnderscore text then text
  else text.filter (· ≠ '_')

/-- An integer in a text, reduced to a sign and digits. -/
def cleanInteger? (text : Text) : Option Text := do
  let trimmed := ((text.dropWhile isIntegerSpace).reverse.dropWhile isIntegerSpace).reverse
  let unsigned ←
    match trimmed with
    | '+' :: '+' :: _ => none
    | '+' :: '-' :: _ => none
    | '+' :: rest => some rest
    | _ => some trimmed
  let stripped ←
    match unsigned with
    | '-' :: magnitude => (dropLeadingZeros? magnitude).map ('-' :: ·)
    | _ => dropLeadingZeros? unsigned
  return dropSingleUnderscores (dropZeroFraction stripped)

/-- The integer of a sign and digits that have no leading zero. Whatever follows them, more digits
than an integer may have are too many. -/
def plainInteger (text : Text) : Checked Int :=
  let (negative, body) :=
    match text with
    | '-' :: rest => (true, rest)
    | _ => (false, text)
  let digits := body.takeWhile Char.isDigit
  if body.head? = some '0' ∧ body.length ≠ 1 then .fault .unreadableInteger
  else if maxIntegerDigits < digits.length then .fault .integerTooLong
  else if digits.isEmpty ∨ digits.length ≠ body.length then .fault .unreadableInteger
  else .valid (signedInt negative (digitsValue (leadingDigits digits)))

/-- The integer that a text spells. -/
def integerOfText (text : Text) : Checked Int :=
  match cleanInteger? text with
  | none => .fault .unreadableInteger
  | some clean => plainInteger clean

/-- An integer: also a flag, a floating-point number without fraction, and a text that spells
one. -/
def asInteger : Value → Checked Int
  | .int number => .valid number
  | .bool flag => .valid (if flag then 1 else 0)
  | .float number => integerOfFloat number
  | .text characters => integerOfText characters
  | _ => .fault .notInteger

end RouteCatalog
