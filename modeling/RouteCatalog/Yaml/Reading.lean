import RouteCatalog.Number.Arithmetic
import RouteCatalog.Number.Radix
import RouteCatalog.Text.Base64
import RouteCatalog.Text.Lowercase
import RouteCatalog.Yaml.Datum
import RouteCatalog.Yaml.Fault
import RouteCatalog.Yaml.Tag

/-!
# What scalars denote

Reading the text of a scalar as its tag says. A tag that is written at a scalar may ask for more than
the form of the text promises, so every reading may fail, and each in its own way; but each reads
more than the form of its tag, such as blanks around a number.
-/

namespace RouteCatalog

namespace Yaml

/-- The text without underscores. -/
def withoutUnderscores (text : Text) : Text :=
  text.filter (· ≠ '_')

/-- An answer, or the fault that there is none. -/
def orFault {α : Type} (fault : Fault) : Option α → Except Fault α
  | some answer => .ok answer
  | none => .error fault

/-- Read a yes or no in any case. -/
def readBool (text : Text) : Except Fault Bool :=
  let word := text.lower
  if trueWords.contains word then .ok true
  else if falseWords.contains word then .ok false
  else .error (.unknownWord word)

/-- The number of parts in sixties, the last counting once. -/
def sixtiesValue (parts : List Int) : Int :=
  parts.foldl (fun total part => 60 * total + part) 0

/-- Read an integer after its sign: after `0b` in base two, after `0x` in base sixteen, after another
zero in base eight, and otherwise in base ten, perhaps in parts of sixties. -/
def readMagnitude (text : Text) : Except Fault Int :=
  match text with
  | [] => .error .emptyNumber
  | ['0'] => .ok 0
  | '0' :: 'b' :: digits => orFault .unreadable (Radix.binary.read? digits)
  | '0' :: 'x' :: digits => orFault .unreadable (Radix.hexadecimal.read? digits)
  | '0' :: digits => orFault .unreadable (Radix.octal.read? ('0' :: digits))
  | _ =>
    orFault .unreadable
      (if text.contains ':' then ((text.pieces ':').mapM readInteger?).map sixtiesValue
      else readInteger? text)

/-- Read an integer. -/
def readInt (text : Text) : Except Fault Int := do
  let (negative, body) := takeSign (withoutUnderscores text)
  let magnitude ← readMagnitude body
  return if negative then -magnitude else magnitude

/-- The sum of floating-point parts, of which the first counts `unit` times and each further one
sixty times as much as the one before it. A unit that is not finite cannot be counted. -/
def sumParts (unit : Nat) (total : Binary64) : List Binary64 → Except Fault Binary64
  | [] => .ok total
  | part :: rest =>
    match Binary64.ofInt unit with
    | .finite negative significand exponent =>
      sumParts (60 * unit) (total.add (part.mul (.finite negative significand exponent))) rest
    | _ => .error .beyondRange

/-- Read a number with a point, an infinity, or what is no number, perhaps in parts of sixties. -/
def readFloat (text : Text) : Except Fault Binary64 := do
  let plain := (withoutUnderscores text).lower
  if plain.isEmpty then throw .emptyNumber
  let (negative, body) := takeSign plain
  let magnitude ←
    if body = ".inf".toList then pure (.infinite false)
    else if body = ".nan".toList then pure .notANumber
    else if body.contains ':' then do
      let parts ← orFault .unreadable ((body.pieces ':').mapM readBinary64?)
      sumParts 1 (Binary64.zero false) parts.reverse
    else orFault .unreadable (readBinary64? body)
  return magnitude.withSign negative

/-- Read a date or time, which has to exist. -/
def readMoment (text : Text) : Except Fault Moment :=
  match Moment.read? (dropLastBreak text) with
  | none => .error .notMoment
  | some moment => if moment.isReal then .ok moment else .error .unreadable

/-- Read bytes. -/
def readBytes (text : Text) : Except Fault (List UInt8) :=
  if text.all fun character => character.toNat < 128 then
    orFault .malformed (Base64.decode? text)
  else .error .malformed

/-- Read a scalar as its tag says. Neither special keys nor unknown tags denote anything, and no
scalar is a collection. -/
def Atom.read (tag : Tag) (text : Text) : Except Fault Atom :=
  match tag with
  | .null => .ok .null
  | .bool => (readBool text).map .bool
  | .int => (readInt text).map .int
  | .float => (readFloat text).map .float
  | .moment => (readMoment text).map .moment
  | .text => .ok (.text text)
  | .bytes => (readBytes text).map .bytes
  | .list | .mapping | .set | .pairs | .merge | .whole | .unknown => .error .malformed

end Yaml

end RouteCatalog
