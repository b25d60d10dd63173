import RouteCatalog.Json.Quoted
import RouteCatalog.Yaml.Moment

/-!
# Tags

A tag says what a node is to denote. It is written at the node or follows from the node's form: for a
scalar without quotes from its text alone, which may have the form of a word for yes, no or nothing,
of an integer in four bases or in sixties, of a number with a point, of a date or time, or of one of
two special keys. No two forms have a text in common.
-/

namespace RouteCatalog

namespace Yaml

/-- What a node is to denote. -/
inductive Tag where
  | null
  | bool
  | int
  | float
  | moment
  | text
  | bytes
  | list
  | mapping
  | set
  /-- A list of pairs, each written as a mapping with one pair. -/
  | pairs
  /-- The key that takes over the pairs of other mappings. -/
  | merge
  /-- The key whose value stands for the mapping as a whole. -/
  | whole
  | unknown
  deriving DecidableEq, Repr

/-- The beginning of all common tags. -/
def commonLead : Text := "tag:yaml.org,2002:".toList

/-- The common tags by the names that follow their beginning. -/
def commonTags : List (Text × Tag) := [
  ("null".toList, .null),
  ("bool".toList, .bool),
  ("int".toList, .int),
  ("float".toList, .float),
  ("timestamp".toList, .moment),
  ("str".toList, .text),
  ("binary".toList, .bytes),
  ("seq".toList, .list),
  ("map".toList, .mapping),
  ("set".toList, .set),
  ("omap".toList, .pairs),
  ("pairs".toList, .pairs),
  ("merge".toList, .merge),
  ("value".toList, .whole)]

/-- The tag with a full name. -/
def Tag.ofName (name : Text) : Tag :=
  match Text.after? commonLead name with
  | some known => (commonTags.lookup known).getD .unknown
  | none => .unknown

/-- The spellings of one word: in lower case, capitalised and in upper case. -/
def spellings (word : Text) : List Text :=
  [word, word.modifyHead Char.toUpper, word.map Char.toUpper]

/-- The words for yes, in lower case. -/
def trueWords : List Text :=
  ["yes".toList, "true".toList, "on".toList]

/-- The words for no, in lower case. -/
def falseWords : List Text :=
  ["no".toList, "false".toList, "off".toList]

/-- The texts for an infinity, without a sign. -/
def infinitySpellings : List Text :=
  [".inf".toList, ".Inf".toList, ".INF".toList]

/-- The texts for no number. -/
def notANumberSpellings : List Text :=
  [".nan".toList, ".NaN".toList, ".NAN".toList]

/-- A digit of ASCII, or an underscore. -/
def isDigitOrUnderscore (character : Char) : Bool :=
  character.isDigit || character == '_'

/-- Is this a digit followed by digits and underscores? -/
def isDigitRun : Text → Bool
  | [] => false
  | first :: rest => first.isDigit && rest.all isDigitOrUnderscore

/-- Is this a number below sixty in one or two digits? -/
def isBelowSixty : Text → Bool
  | [unit] => unit.isDigit
  | [ten, unit] => ten.isDigit && ten.toNat < 54 && unit.isDigit
  | _ => false

/-- Are these at least two parts with colons between them, a run of digits and numbers below
sixty? -/
def isSixtiesForm (text : Text) : Bool :=
  match text.pieces ':' with
  | first :: second :: rest => isDigitRun first && (second :: rest).all isBelowSixty
  | _ => false

/-- Has the text the form of a word for yes or no? -/
def isBoolForm (text : Text) : Bool :=
  ((trueWords ++ falseWords).flatMap spellings).contains text

/-- Has the text the form of nothing? -/
def isNullForm (text : Text) : Bool :=
  (['~'] :: spellings "null".toList).contains text

/-- Are these characters of a kind, at least one? -/
def isRunOf (kind : Char → Bool) (text : Text) : Bool :=
  !text.isEmpty && text.all kind

/-- Has the text the form of an integer without sign: after `0b` in base two, after `0x` in base
sixteen, after `0` in base eight, otherwise in base ten or in sixties? -/
def isNaturalForm : Text → Bool
  | '0' :: 'b' :: digits => isRunOf (fun digit => digit == '0' || digit == '1' || digit == '_') digits
  | '0' :: 'x' :: digits =>
    isRunOf (fun digit => digit == '_' || (Json.hexValue? digit).isSome) digits
  | '0' :: digits =>
    digits.all fun digit => isDigitOrUnderscore digit && digit != '8' && digit != '9'
  | text => isDigitRun text || isSixtiesForm text

/-- Has the text the form of an integer? -/
def isIntForm (text : Text) : Bool :=
  isNaturalForm (takeSign text).2

/-- Is this nothing, or an exponent with a sign? -/
def isExponentForm : Text → Bool
  | [] => true
  | mark :: sign :: digits =>
    (mark == 'e' || mark == 'E') && (sign == '+' || sign == '-') && isRunOf Char.isDigit digits
  | _ => false

/-- Has the text the form of a decimal? It has a point, before which there are digits unless there is
no sign either. -/
def isDecimalForm (text : Text) : Bool :=
  let body := (takeSign text).2
  let starts :=
    match body with
    | '.' :: first :: _ => first.isDigit && body == text
    | first :: _ => first.isDigit
    | [] => false
  let continues :=
    match body.dropWhile isDigitOrUnderscore with
    | '.' :: rest => isExponentForm (rest.dropWhile isDigitOrUnderscore)
    | _ => false
  starts && continues

/-- Has the text the form of a number in sixties that has a point? -/
def isSixtiesDecimalForm (text : Text) : Bool :=
  match Text.breakAt? ['.'] (takeSign text).2 with
  | some (whole, places) => isSixtiesForm whole && places.all isDigitOrUnderscore
  | none => false

/-- Has the text the form of a number with a point, an infinity or the text for no number? -/
def isFloatForm (text : Text) : Bool :=
  infinitySpellings.contains (takeSign text).2 || notANumberSpellings.contains text ||
    isDecimalForm text || isSixtiesDecimalForm text

/-- Has the text the form of a date or time? A date by itself has two digits for the month and the
day. -/
def isMomentForm (text : Text) : Bool :=
  (Moment.read? text).any fun moment => moment.time?.isSome || text.length == 10

/-- The text without the line feed at its end, if there is one. -/
def dropLastBreak (text : Text) : Text :=
  (text.dropEnding? ['\n']).getD text

/-- The tag of a scalar that follows from its text. One line feed at the end makes no difference to
the form. -/
def Tag.ofForm (text : Text) : Tag :=
  let body := dropLastBreak text
  if text.isEmpty then .null
  else if isBoolForm body then .bool
  else if isFloatForm body then .float
  else if isIntForm body then .int
  else if body = ['<', '<'] then .merge
  else if isNullForm body then .null
  else if isMomentForm body then .moment
  else if body = ['='] then .whole
  else if body = ['!'] ∨ body = ['&'] ∨ body = ['*'] then .unknown
  else .text

end Yaml

end RouteCatalog
