import RouteCatalog.Catalog
import RouteCatalog.Json.Reader
import RouteCatalog.Lenient

/-!
# Reading catalogs

`Catalog.read` reads the document of a catalog. Fields it does not know are passed over, absent
fields have their defaults, and everything that is wrong is reported. Of several fields with one
name the last counts; a page that is named several times keeps its first place.
-/

namespace RouteCatalog

/-- A field that has to be there. -/
def requiredField {α : Type} (entries : List (Text × Value)) (name : Text)
    (check : Value → Checked α) : Checked α :=
  Checked.within (.key name)
    (match lastOf? entries name with
    | some value => check value
    | none => .fault .missing)

/-- A field with a default. -/
def optionalField {α : Type} (entries : List (Text × Value)) (name : Text) (default : α)
    (check : Value → Checked α) : Checked α :=
  match lastOf? entries name with
  | some value => (check value).within (.key name)
  | none => .valid default

/-- Check the fields of a model. -/
def checkModel {α : Type} (check : List (Text × Value) → Checked α) : Value → Checked α
  | .record entries => check entries
  | _ => .fault .notModel

/-- The name of a kind of condition. -/
def asConditionKind : Value → Checked ConditionKind
  | .text name =>
    match ConditionKind.ofName? name with
    | some kind => .valid kind
    | none => .fault .notAllowed
  | _ => .fault .notAllowed

/-- A condition. -/
def asCondition : Value → Checked AuthCondition :=
  checkModel fun entries =>
    AuthCondition.mk <$> requiredField entries "key".toList asText
      <*> requiredField entries "kind".toList asConditionKind
      <*> optionalField entries "expected".toList .null fun value => .valid value.settled

/-- A list of conditions. -/
def asConditions : Value → Checked (List AuthCondition)
  | .list items => Checked.items asCondition items
  | _ => .fault .notList

/-- An auth requirement. -/
def asAuth : Value → Checked AuthDescriptor :=
  checkModel fun entries =>
    AuthDescriptor.mk <$> optionalField entries "requires_login".toList false asBool
      <*> optionalField entries "additional".toList [] asConditions
      <*> optionalField entries "known".toList false asBool
      <*> optionalField entries "raw".toList none asText?

/-- Does the value stand for `false`? So does a floating-point zero, but not the integer zero. -/
def isDisabledLimit : Value → Bool
  | .bool flag => !flag
  | .float number => number.isZero
  | _ => false

/-- A rate limit: nothing, `false` or an integer. A value that is none of these is wrong in both of
the last two ways. -/
def asRateLimit : Value → Checked RateLimit
  | .null => .valid .unset
  | value =>
    if isDisabledLimit value then .valid .disabled
    else
      match asInteger value with
      | .valid requests => .valid (.perMinute requests)
      | .faulty issues =>
        .faulty (issues.map (·.within (.key "int".toList)) ++
          [{ place := [.key "literal[False]".toList], kind := .notAllowed }])

/-- An endpoint. -/
def asEndpoint : Value → Checked Endpoint :=
  checkModel fun entries =>
    Endpoint.mk <$> requiredField entries "page".toList asText
      <*> requiredField entries "name".toList asText
      <*> optionalField entries "version".toList defaultVersion asText
      <*> optionalField entries "method".toList defaultMethod asText
      <*> optionalField entries "description".toList none asText?
      <*> optionalField entries "input".toList defaultShape asText
      <*> optionalField entries "output".toList defaultShape asText
      <*> optionalField entries "auth".toList {} asAuth
      <*> optionalField entries "rate_limit".toList .unset asRateLimit

/-- A broadcast. -/
def asBroadcast : Value → Checked Broadcast :=
  checkModel fun entries =>
    Broadcast.mk <$> requiredField entries "page".toList asText
      <*> requiredField entries "name".toList asText
      <*> optionalField entries "version".toList defaultVersion asText
      <*> optionalField entries "client_input".toList defaultShape asText
      <*> optionalField entries "server_output".toList defaultShape asText
      <*> optionalField entries "client_output".toList defaultShape asText

/-- The signatures of each page in turn. -/
def checkPages {α : Type} (check : Value → Checked α) :
    List (Text × Value) → Checked (List (Text × List α))
  | [] => .valid []
  | (page, signatures) :: rest =>
    let checked : Checked (List α) :=
      match signatures with
      | .list items => Checked.items check items
      | _ => .fault .notTuple
    Checked.apply (Checked.map (fun signatures pages => (page, signatures) :: pages)
      (checked.within (.key page))) fun _ => checkPages check rest

/-- Signatures under their pages. -/
def asPages {α : Type} (check : Value → Checked α) : Value → Checked (List (Text × List α))
  | .record entries => (checkPages check entries).map collapse
  | _ => .fault .notMapping

/-- A catalog. -/
def asCatalog : Value → Checked Catalog :=
  checkModel fun entries =>
    Catalog.mk <$> optionalField entries "endpoints".toList [] (asPages asEndpoint)
      <*> optionalField entries "broadcasts".toList [] (asPages asBroadcast)

/-- Read the document of a catalog. -/
def Catalog.read (document : Text) : Except (List Issue) Catalog :=
  match Json.read? document with
  | some value => (asCatalog value).toExcept
  | none => .error [{ place := [], kind := .notJson }]

end RouteCatalog
