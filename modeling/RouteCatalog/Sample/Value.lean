import RouteCatalog.Delimiter.Block
import RouteCatalog.Number.Binary64
import RouteCatalog.Route
import RouteCatalog.Sample.Random
import RouteCatalog.Shape
import RouteCatalog.Value

/-!
# Example values

`sampleValue` makes an example value of a type expression and `sampleRecord` an example record of an
object type. A union gives a value of one of its branches, an array two items, an optional field is
left out more often than not, and a type that is not understood gives null. What is asked of the
source of randomness is recorded, also where sampling fails.
-/

namespace RouteCatalog

/-- A moment in universal time. -/
structure Instant where
  year : Nat
  month : Nat
  day : Nat
  hour : Nat
  minute : Nat
  second : Nat
  microsecond : Nat
  deriving DecidableEq, Repr

/-- A number with leading zeros up to a width. -/
def padded (width number : Nat) : Text :=
  let digits := natText number
  List.replicate (width - digits.length) '0' ++ digits

/-- The moment with its milliseconds. -/
def Instant.write (instant : Instant) : Text :=
  padded 4 instant.year ++ '-' :: padded 2 instant.month ++ '-' :: padded 2 instant.day ++
    'T' :: padded 2 instant.hour ++ ':' :: padded 2 instant.minute ++
    ':' :: padded 2 instant.second ++ '.' :: padded 3 (instant.microsecond / 1000) ++ ['Z']

/-- A source of randomness in use. -/
structure Sampler (source : RandomSource) where
  state : source.State
  /-- What has been asked, the last request first. -/
  requests : List RandomRequest := []

/-- A computation that asks a source of randomness and may meet a number that is too long. -/
abbrev Sampling (source : RandomSource) := ExceptT NumberTooLong (StateM (Sampler source))

namespace Sampling

variable {source : RandomSource}

/-- Ask for a number below a bound. -/
def drawBelow (request : RandomRequest) (bound : Nat) : Sampling source Nat := do
  let sampler ← get
  let (drawn, state) := source.below bound sampler.state
  set ({ state, requests := request :: sampler.requests } : Sampler source)
  return drawn

/-- One of several texts; the default if there are none. -/
def choose (candidates : List Text) : Sampling source Text := do
  let index ← drawBelow (.choice candidates) candidates.length
  return candidates.getD index []

/-- A number from `low` to `high`. -/
def between (low high : Nat) : Sampling source Nat := do
  let offset ← drawBelow (.between low high) (high - low + 1)
  return low + offset

/-- A number below a bound. -/
def below (bound : Nat) : Sampling source Nat :=
  drawBelow (.below bound) bound

/-- A fraction of one. -/
def fraction : Sampling source Fraction := do
  let sampler ← get
  let (drawn, state) := source.fraction sampler.state
  set ({ state, requests := .fraction :: sampler.requests } : Sampler source)
  return drawn

/-- Run a computation: its answer and the source afterwards. -/
def runOn {α : Type} (sampling : Sampling source α) (sampler : Sampler source) :
    Except NumberTooLong α × Sampler source :=
  StateT.run (ExceptT.run sampling) sampler

end Sampling

/-- How many optional fields are kept: two in five. -/
def includeRate : Fraction := { numerator := 2, denominator := 5 }

/-- One half. -/
def half : Fraction := { numerator := 1, denominator := 2 }

/-- The branches of a union, blank ones left out. -/
def unionBranches (type : Text) : List Text :=
  ((splitTopLevel (· == '|') type).map Text.trim).filter fun branch => !branch.isEmpty

/-- Does a branch of a union stand for nothing? -/
def isNullish (branch : Text) : Bool :=
  branch == "undefined".toList || branch == "null".toList

/-- The branches to choose from: those that stand for something, or else the first. -/
def unionCandidates (branches : List Text) : List Text :=
  let candidates := branches.filter fun branch => !isNullish branch
  if candidates.isEmpty then branches.take 1 else candidates

/-- The item type of an array in either notation. -/
def arrayItem? (type : Text) : Option Text :=
  match type.dropEnding? "[]".toList with
  | some item => some item
  | none =>
    match Text.after? "Array<".toList ((Text.after? "Readonly".toList type).getD type) with
    | some argument => argument.dropEnding? ">".toList
    | none => none

/-- Is the text a number literal: digits with an optional minus and an optional fraction? The answer
tells whether there is a fraction. -/
def numberLiteral? (text : Text) : Option Bool :=
  let unsigned :=
    match text with
    | '-' :: rest => rest
    | _ => text
  if (leadingDigits unsigned).isEmpty then none
  else
    match afterDigits unsigned with
    | [] => some false
    | '.' :: rest =>
      if !(leadingDigits rest).isEmpty && (afterDigits rest).isEmpty then some true else none
    | _ => none

/-- The value of a type that has no parts. -/
def sampleScalar {source : RandomSource} (now : Instant) (type : Text) : Sampling source Value :=
  if type = "string".toList then do
    let number ← Sampling.between 0 9999
    return .text ("example-".toList ++ natText number)
  else if type = "number".toList then do
    let number ← Sampling.below 100
    return .int number
  else if type = "boolean".toList then do
    let drawn ← Sampling.fraction
    return .bool (drawn.lessThan half)
  else if type = "Date".toList then return .text now.write
  else
    match Text.unwrapMarks? ['\'', '"'] type with
    | some inside => return .text inside
    | none =>
      if type = "true".toList then return .bool true
      else if type = "false".toList then return .bool false
      else
        match numberLiteral? type with
        | some true =>
          match readBinary64? type with
          | some number => return .float number
          | none => return .null
        | some false =>
          match readInteger? type with
          | some number => return .int number
          | none => throw {}
        | none => return .null

/-- The entries of an example record, added to those there are already. -/
def sampleFields {source : RandomSource} (sample : Text → Sampling source Value) :
    List Field → List (Text × Value) → Sampling source (List (Text × Value))
  | [], entries => return entries
  | field :: rest, entries => do
    let included ←
      if field.optional then do
        let drawn ← Sampling.fraction
        pure (drawn.lessThan includeRate)
      else pure true
    if included then
      let value ← sample field.type
      sampleFields sample rest (put field.key value entries)
    else sampleFields sample rest entries

/-- An example value of a type whose parts are nested less than `fuel` deep. -/
def sampleWithin {source : RandomSource} (now : Instant) : (fuel : Nat) → Text →
    Sampling source Value
  | 0, _ => return .null
  | fuel + 1, text => do
    let type := text.trim
    let branches := unionBranches type
    if 1 < branches.length then
      let branch ← Sampling.choose (unionCandidates branches)
      sampleWithin now fuel branch
    else
      match arrayItem? type with
      | some item =>
        let first ← sampleWithin now fuel item
        let second ← sampleWithin now fuel item
        return .list [first, second]
      | none =>
        if type.head? = some '(' ∧ isOneBlock type then
          sampleWithin now fuel (type.drop 1).dropLast
        else if (unwrapBraces? type).isSome then
          let entries ← sampleFields (sampleWithin now fuel) (fieldsOf type) []
          return .record entries
        else sampleScalar now type

/-- An example value of a type. Every part is shorter than the whole, so the fuel lasts. -/
def sampleValue {source : RandomSource} (now : Instant) (type : Text) : Sampling source Value :=
  sampleWithin now (type.length + 1) type

/-- An example record of an object type; a text that is no object type gives an empty one. -/
def sampleRecord {source : RandomSource} (now : Instant) (type : Text) : Sampling source Value := do
  let entries ← sampleFields (sampleValue now) (fieldsOf type) []
  return .record entries

end RouteCatalog
