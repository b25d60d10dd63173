import RouteCatalog.Json.Quoted
import RouteCatalog.Value

/-!
# Reading JSON

`Json.read?` reads a JSON text. Three names of the floating-point format are read as well: `NaN`,
`Infinity` and `-Infinity`. A number has at most 4300 digits before its point, and lists and records
that are not empty are nested at most 200 deep. A record keeps every entry it was written with; which of
several entries with one key counts is for the reader of the record to say.
-/

namespace RouteCatalog

namespace Json

/-- The characters that may stand between the parts of a JSON text. -/
def isSpace (character : Char) : Bool :=
  character == ' ' || character == '\t' || character == '\n' || character == '\r'

/-- The text without leading spaces. -/
def skipSpace (text : Text) : Text :=
  text.dropWhile isSpace

/-- The deepest nesting of lists and records that are not empty. -/
def maxDepth : Nat := 200

/-- The value of ASCII digits. -/
def asciiDigitsValue (digits : Text) : Nat :=
  digitsValue (digits.filterMap digitValue?)

/-- One or more digits and what follows them. -/
def readDigits? (text : Text) : Option (Text × Text) :=
  let digits := text.takeWhile Char.isDigit
  if digits.isEmpty then none else some (digits, text.dropWhile Char.isDigit)

/-- The digits of an integer, which begin with a zero only if there are no others. -/
def readWhole? (text : Text) : Option (Text × Text) := do
  let (digits, following) ← readDigits? text
  if digits.head? = some '0' ∧ digits.length ≠ 1 then none else some (digits, following)

/-- The digits after the point, none if there is no point. -/
def readFraction? : Text → Option (Text × Text)
  | '.' :: rest => readDigits? rest
  | text => some ([], text)

/-- The exponent, if there is one. -/
def readPower? : Text → Option (Option Int × Text)
  | [] => some (none, [])
  | mark :: rest =>
    if mark = 'e' ∨ mark = 'E' then do
      let (negative, body) := takeSign rest
      let (digits, following) ← readDigits? body
      return (some (signedInt negative (asciiDigitsValue digits)), following)
    else some (none, mark :: rest)

/-- Read a number: an integer if it has neither a point nor an exponent. -/
def readNumber? (text : Text) : Option (Value × Text) := do
  let (negative, body) :=
    match text with
    | '-' :: rest => (true, rest)
    | _ => (false, text)
  let (whole, following) ← readWhole? body
  let (fraction, following) ← readFraction? following
  let (power, following) ← readPower? following
  if maxIntegerDigits < whole.length then none
  else if fraction.isEmpty ∧ power.isNone then
    some (.int (signedInt negative (asciiDigitsValue whole)), following)
  else
    let exponent := power.getD 0 - fraction.length
    let decimal : Decimal := ⟨negative, asciiDigitsValue (whole ++ fraction), exponent⟩
    some (.float (Binary64.ofDecimal decimal), following)

/-- The values that are written as a name. -/
def names : List (Text × Value) := [
  ("null".toList, .null),
  ("true".toList, .bool true),
  ("false".toList, .bool false),
  ("NaN".toList, .float .notANumber),
  ("Infinity".toList, .float (.infinite false)),
  ("-Infinity".toList, .float (.infinite true))]

/-- Read a name or a number. -/
def readScalar? (text : Text) : Option (Value × Text) :=
  match names.findSome? fun (name, value) => (Text.after? name text).map fun rest => (value, rest) with
  | some read => some read
  | none => readNumber? text

mutual

/-- Read a value inside at most `depth` further lists and records that are not empty. -/
def readValue? : (fuel depth : Nat) → Text → Option (Value × Text)
  | 0, _, _ => none
  | fuel + 1, depth, text =>
    match skipSpace text with
    | [] => none
    | mark :: rest =>
      if mark = '"' then (readQuoted? rest).map fun (read, following) => (.text read, following)
      else if mark = '[' then
        match skipSpace rest, depth with
        | ']' :: following, _ => some (.list [], following)
        | _, 0 => none
        | _, depth + 1 =>
          (readItems? fuel depth rest).map fun (items, following) => (.list items, following)
      else if mark = '{' then
        match skipSpace rest, depth with
        | '}' :: following, _ => some (.record [], following)
        | _, 0 => none
        | _, depth + 1 =>
          (readEntries? fuel depth rest).map fun (entries, following) => (.record entries, following)
      else readScalar? (mark :: rest)

/-- Read the items of a list that is not empty, up to its closing bracket. -/
def readItems? : (fuel depth : Nat) → Text → Option (List Value × Text)
  | 0, _, _ => none
  | fuel + 1, depth, text =>
    match readValue? fuel depth text with
    | none => none
    | some (item, following) =>
      match skipSpace following with
      | ',' :: rest => (readItems? fuel depth rest).map fun (items, rest) => (item :: items, rest)
      | ']' :: rest => some ([item], rest)
      | _ => none

/-- Read the entries of a record that is not empty, up to its closing brace. -/
def readEntries? : (fuel depth : Nat) → Text → Option (List (Text × Value) × Text)
  | 0, _, _ => none
  | fuel + 1, depth, text =>
    match readKey? text with
    | none => none
    | some (key, following) =>
      match readValue? fuel depth following with
      | none => none
      | some (value, following) =>
        match skipSpace following with
        | ',' :: rest =>
          (readEntries? fuel depth rest).map fun (entries, rest) => ((key, value) :: entries, rest)
        | '}' :: rest => some ([(key, value)], rest)
        | _ => none
where
  /-- Read a key and its colon. -/
  readKey? (text : Text) : Option (Text × Text) :=
    match skipSpace text with
    | '"' :: rest =>
      match readQuoted? rest with
      | some (key, following) =>
        match skipSpace following with
        | ':' :: rest => some (key, rest)
        | _ => none
      | none => none
    | _ => none

end

/-- Read a JSON text. Every value and every item or entry takes one unit of fuel and one character
or more, so the fuel lasts. -/
def read? (text : Text) : Option Value :=
  match readValue? (2 * text.length + 2) maxDepth text with
  | some (value, following) => if (skipSpace following).isEmpty then some value else none
  | none => none

end Json

end RouteCatalog
