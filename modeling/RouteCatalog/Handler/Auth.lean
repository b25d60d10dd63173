import RouteCatalog.Auth
import RouteCatalog.Delimiter.Block
import RouteCatalog.Handler.Declaration
import RouteCatalog.Shape

/-!
# Reading auth requirements

A handler states its requirement as `export const auth = { login: ..., additional: [...] }`, perhaps
with the type `AuthProps`. Rows that are not entries are passed over and absent entries have their
defaults; a literal whose entries cannot be read is kept as text.
-/

namespace RouteCatalog

/-- The value that a literal denotes; text that is no literal denotes itself. -/
def readLiteral (text : Text) : Value :=
  let trimmed := text.trim
  if trimmed = "true".toList then .bool true
  else if trimmed = "false".toList then .bool false
  else if trimmed = "null".toList then .null
  else
    match Text.unwrapMarks? ['\'', '"', '\x60'] trimmed with
    | some inside => .text inside
    | none =>
      match readInteger? trimmed with
      | some number => .int number
      | none =>
        match readBinary64? trimmed with
        | some number => .float number
        | none => .text trimmed

/-- The condition that the entries of an object state: its key and the first of its checks. -/
def conditionOf? (entries : List (Text × Text)) : Option AuthCondition := do
  let key ← lastOf? entries "key".toList
  ConditionKind.all.findSome? fun kind =>
    (lastOf? entries kind.sourceKey).map fun expected =>
      { key := (readLiteral key).plain, kind, expected := readLiteral expected }

/-- The conditions of a list literal; every item that is not blank has to be a condition. -/
def readConditions? (text : Text) : Option (List AuthCondition) :=
  match text.trim with
  | '[' :: rest =>
    if rest.getLast? = some ']' then
      ((splitTopLevel (· == ',') rest.dropLast).filter fun item => !item.isBlankText).mapM
        fun item => (unwrapBraces? item).bind fun interior => conditionOf? (entriesOf interior)
    else none
  | _ => none

/-- The requirement that an auth literal states, its delimiters included. -/
def readAuthLiteral (literal : Text) : AuthDescriptor :=
  let entries := entriesOf (literal.drop 1).dropLast
  let login := (lastOf? entries "login".toList).getD "false".toList
  if login ≠ "true".toList ∧ login ≠ "false".toList then { raw := some literal }
  else
    let requiresLogin := login = "true".toList
    match readConditions? ((lastOf? entries "additional".toList).getD "[]".toList) with
    | none => { requiresLogin, raw := some literal }
    | some additional => { requiresLogin, additional, known := true }

/-- The type of an auth constant, if it is written, and what follows it. -/
def skipAuthType (text : Text) : Text :=
  match text.trimStart with
  | ':' :: rest =>
    match Text.after? "AuthProps".toList (Text.trimStart rest) with
    | some following => following
    | none => ':' :: rest
  | following => following

/-- The text from the brace that opens an exported auth literal. -/
def atAuthLiteral? (text : Text) : Option Text := do
  let following ← afterConstant? "auth".toList text
  match (skipAuthType following).trimStart with
  | '=' :: rest =>
    match Text.trimStart rest with
    | '{' :: interior => some ('{' :: interior)
    | _ => none
  | _ => none

/-- The requirement that source text without comments exports. -/
def readAuth (source : Text) : AuthDescriptor :=
  match Text.firstMatch atAuthLiteral? source with
  | none => {}
  | some opened =>
    match block? opened with
    | none => { raw := some opened.trim }
    | some literal => readAuthLiteral literal

end RouteCatalog
