import RouteCatalog.Text.Blank
import RouteCatalog.Text.Word
import RouteCatalog.Delimiter.Split

/-!
# Rows of object types and literals

The interior of a braced text is cut into rows. `fieldOfRow?` reads a row `key: type` or
`key?: type` of an object type, whose key is an identifier. `entryOfRow?` reads a row of an
interface or literal, whose key may also be quoted or contain the characters `@`, `.`, `/` and
`-`. Rows that are neither are not part of the result.
-/

namespace RouteCatalog

/-- The interior of a text that, blanks at its ends apart, starts with `{` and ends with `}`. -/
def unwrapBraces? (text : Text) : Option Text :=
  match text.trim with
  | '{' :: rest => if rest.getLast? == some '}' then some rest.dropLast else none
  | _ => none

/-- The interior is what stands between the braces at the ends of the trimmed text. -/
theorem unwrapBraces?_eq_some_iff {text interior : Text} :
    unwrapBraces? text = some interior ↔ text.trim = '{' :: (interior ++ ['}']) := by
  unfold unwrapBraces?
  constructor
  · intro found
    split at found
    · rename_i rest trimmed
      split at found
      · rename_i closed
        cases found
        obtain ⟨front, equal⟩ := List.getLast?_eq_some_iff.mp (beq_iff_eq.mp closed)
        simp [trimmed, equal]
      · cases found
    · cases found
  · intro trimmed
    simp [trimmed]

/-- A field of an object type. -/
structure Field where
  key : Text
  optional : Bool
  type : Text
  deriving DecidableEq, Repr

/-- May the character begin an identifier? -/
def isIdentifierStart (character : Char) : Bool :=
  character.isAlpha || character == '_' || character == '$'

/-- May the character continue an identifier? -/
def isIdentifierRest (character : Char) : Bool :=
  isWord character || character == '$'

/-- May the character stand in an entry's key without quotes? -/
def isBareKeyCharacter (character : Char) : Bool :=
  isWord character || character == '$' || character == '@' || character == '.' ||
    character == '/' || character == '-'

/-- What follows the colon of a row, if only blanks stand before the colon. -/
def afterColon? (text : Text) : Option Text :=
  match text.trimStart with
  | ':' :: rest => some rest
  | _ => none

/-- The field that a row of an object type declares. -/
def fieldOfRow? (row : Text) : Option Field :=
  match row.trimStart with
  | [] => none
  | first :: rest =>
    if isIdentifierStart first then
      let key := first :: rest.takeWhile isIdentifierRest
      match rest.dropWhile isIdentifierRest with
      | '?' :: following => (afterColon? following).map fun type => ⟨key, true, type.trim⟩
      | following => (afterColon? following).map fun type => ⟨key, false, type.trim⟩
    else none

/-- The fields of an object type in their order; a text without outer braces has none. -/
def fieldsOf (text : Text) : List Field :=
  match unwrapBraces? text with
  | none => []
  | some interior => (rows interior).filterMap fieldOfRow?

/-- The characters up to a mark and the text after it. -/
def untilMark? (mark : Char) : Text → Option (Text × Text)
  | [] => none
  | character :: rest =>
    if character = mark then some ([], rest)
    else (untilMark? mark rest).map fun (inside, following) => (character :: inside, following)

/-- The key at the beginning of a row, and what follows it. -/
def keyOfRow? : Text → Option (Text × Text)
  | '\'' :: rest => untilMark? '\'' rest
  | '"' :: rest => untilMark? '"' rest
  | text =>
    let key := text.takeWhile isBareKeyCharacter
    if key.isEmpty then none else some (key, text.dropWhile isBareKeyCharacter)

/-- The text without a leading question mark, blanks before it included. -/
def skipOptionalMark (text : Text) : Text :=
  match text.trimStart with
  | '?' :: rest => rest
  | following => following

/-- The key and the value of a row of an interface or literal. -/
def entryOfRow? (row : Text) : Option (Text × Text) := do
  let (key, following) ← keyOfRow? row.trimStart
  let value ← afterColon? (skipOptionalMark following)
  return (key, value.trim)

/-- The entries of the interior of an interface or literal, in their order. -/
def entriesOf (interior : Text) : List (Text × Text) :=
  (rows interior).filterMap entryOfRow?

/-- Write fields as an object type. -/
def renderFields (fields : List Field) : Text :=
  ['{', ' '] ++
    Text.join "; ".toList
      (fields.map fun field =>
        field.key ++ (if field.optional then ['?'] else []) ++ ": ".toList ++ field.type) ++
    [' ', '}']

end RouteCatalog
