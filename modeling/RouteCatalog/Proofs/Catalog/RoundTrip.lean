import RouteCatalog.Catalog.Reader
import RouteCatalog.Catalog.Writer
import RouteCatalog.Proofs.Json.RoundTrip
import RouteCatalog.Proofs.Keyed

/-!
# Reading written catalogs

Every document that a catalog is written to is read back as the catalog: `read_write`. Each part is
checked from its value (`asCondition_toValue`, `asAuth_toValue`, `asEndpoint_toValue`), and distinct
pages stay where they are. The route of a signature is written and passed over.
-/

namespace RouteCatalog

/-- A value that a condition may expect in a document: null, a boolean, a text, or an integer that
does not have too many digits. -/
def Value.IsExpected : Value → Prop
  | .null | .bool _ | .text _ => True
  | .int number => isTooLong number = false
  | .float _ | .list _ | .record _ => False

/-- The number of requests does not have too many digits. -/
def RateLimit.IsBounded : RateLimit → Prop
  | .perMinute requests => isTooLong requests = false
  | .unset | .disabled => True

/-- The integers of an endpoint do not have too many digits, and its conditions expect scalars. -/
structure Endpoint.IsWritable (endpoint : Endpoint) : Prop where
  expected : ∀ condition ∈ endpoint.auth.additional, condition.expected.IsExpected
  rateLimit : endpoint.rateLimit.IsBounded

/-- A catalog of distinct pages whose endpoints may be written. -/
structure Catalog.IsWritable (catalog : Catalog) : Prop where
  distinctEndpoints : (catalog.endpoints.map Prod.fst).Nodup
  distinctBroadcasts : (catalog.broadcasts.map Prod.fst).Nodup
  endpoints : ∀ page ∈ catalog.endpoints, ∀ endpoint ∈ page.2, endpoint.IsWritable

/-- A value that a document holds: one that a condition may expect in a document, or a finite
floating-point number. -/
def Value.IsHeld : Value → Prop
  | .float number => number.IsFinite
  | other => other.IsExpected

/-- A document holds the endpoint. -/
structure Endpoint.IsHeld (endpoint : Endpoint) : Prop where
  expected : ∀ condition ∈ endpoint.auth.additional, condition.expected.IsHeld
  rateLimit : endpoint.rateLimit.IsBounded

/-- A document holds the catalog. -/
structure Catalog.IsHeld (catalog : Catalog) : Prop where
  distinctEndpoints : (catalog.endpoints.map Prod.fst).Nodup
  distinctBroadcasts : (catalog.broadcasts.map Prod.fst).Nodup
  endpoints : ∀ page ∈ catalog.endpoints, ∀ endpoint ∈ page.2, endpoint.IsHeld

theorem Value.IsExpected.isHeld {value : Value} (isExpected : value.IsExpected) : value.IsHeld := by
  cases value with
  | float number => exact isExpected.elim
  | list items => exact isExpected.elim
  | record entries => exact isExpected.elim
  | _ => exact isExpected

/-- Documents hold what may be written. -/
theorem Catalog.IsWritable.isHeld {catalog : Catalog} (writable : catalog.IsWritable) :
    catalog.IsHeld :=
  ⟨writable.distinctEndpoints, writable.distinctBroadcasts, fun page member endpoint inPage =>
    ⟨fun condition inAuth =>
        ((writable.endpoints page member endpoint inPage).expected condition inAuth).isHeld,
      (writable.endpoints page member endpoint inPage).rateLimit⟩⟩

instance Value.decidableIsExpected : (value : Value) → Decidable value.IsExpected
  | .null | .bool _ | .text _ => isTrue trivial
  | .int number => inferInstanceAs (Decidable (isTooLong number = false))
  | .float _ | .list _ | .record _ => isFalse id

instance RateLimit.decidableIsBounded : (limit : RateLimit) → Decidable limit.IsBounded
  | .perMinute requests => inferInstanceAs (Decidable (isTooLong requests = false))
  | .unset | .disabled => isTrue trivial

instance Endpoint.decidableIsWritable (endpoint : Endpoint) : Decidable endpoint.IsWritable :=
  decidable_of_iff ((∀ condition ∈ endpoint.auth.additional, condition.expected.IsExpected) ∧
      endpoint.rateLimit.IsBounded)
    ⟨fun ⟨expected, rateLimit⟩ => ⟨expected, rateLimit⟩,
      fun writable => ⟨writable.expected, writable.rateLimit⟩⟩

section Readable

variable {depth : Nat}

/-- What a document holds is readable. -/
theorem Value.IsHeld.isReadable {value : Value} (held : value.IsHeld) :
    Json.IsReadable depth value := by
  cases value with
  | null => exact .null
  | bool flag => exact .bool flag
  | int number => exact .int held
  | text characters => exact .text characters
  | float number => exact .float held
  | list items => exact held.elim
  | record entries => exact held.elim

theorem isReadable_ofText? (text : Option Text) : Json.IsReadable depth (.ofText? text) := by
  cases text with
  | none => exact .null
  | some characters => exact .text characters

theorem RateLimit.IsBounded.isReadable {limit : RateLimit} (isBounded : limit.IsBounded) :
    Json.IsReadable depth limit.toValue := by
  cases limit with
  | unset => exact .null
  | disabled => exact .bool false
  | perMinute requests => exact .int isBounded

theorem isReadable_condition {condition : AuthCondition} (held : condition.expected.IsHeld) :
    Json.IsReadable (depth + 1) condition.toValue := by
  refine .record ?_
  simp only [List.forall_mem_cons, List.not_mem_nil, false_implies, implies_true, and_true]
  exact ⟨.text _, .text _, held.isReadable⟩

theorem isReadable_auth {auth : AuthDescriptor}
    (expected : ∀ condition ∈ auth.additional, condition.expected.IsHeld) :
    Json.IsReadable (depth + 3) auth.toValue := by
  refine .record ?_
  simp only [List.forall_mem_cons, List.not_mem_nil, false_implies, implies_true, and_true]
  refine ⟨.bool _, .list ?_, .bool _, isReadable_ofText? _⟩
  simpa using fun condition member => isReadable_condition (expected condition member)

theorem Endpoint.IsHeld.isReadable {endpoint : Endpoint} (held : endpoint.IsHeld) :
    Json.IsReadable (depth + 4) endpoint.toValue := by
  refine .record ?_
  simp only [List.forall_mem_cons, List.not_mem_nil, false_implies, implies_true, and_true]
  exact ⟨.text _, .text _, .text _, .text _, isReadable_ofText? _, .text _, .text _,
    isReadable_auth held.expected, held.rateLimit.isReadable, .text _⟩

theorem isReadable_broadcast (broadcast : Broadcast) :
    Json.IsReadable (depth + 4) broadcast.toValue := by
  refine .record ?_
  simp only [List.forall_mem_cons, List.not_mem_nil, false_implies, implies_true, and_true]
  exact ⟨.text _, .text _, .text _, .text _, .text _, .text _, .text _⟩

theorem isReadable_pages {α : Type} {toValue : α → Value} {pages : List (Text × List α)}
    (each : ∀ page ∈ pages, ∀ signature ∈ page.2, Json.IsReadable depth (toValue signature)) :
    Json.IsReadable (depth + 2) (pagesValue toValue pages) := by
  refine .record fun entry member => ?_
  obtain ⟨page, inPages, rfl⟩ := List.mem_map.mp member
  refine .list fun item inItems => ?_
  obtain ⟨signature, inPage, rfl⟩ := List.mem_map.mp inItems
  exact each page inPages signature inPage

/-- The value of a catalog is readable. -/
theorem Catalog.IsHeld.isReadable {catalog : Catalog} (held : catalog.IsHeld) :
    Json.IsReadable (depth + 7) catalog.toValue := by
  refine .record ?_
  simp only [List.forall_mem_cons, List.not_mem_nil, false_implies, implies_true, and_true]
  exact ⟨isReadable_pages fun page member endpoint inPage =>
      (held.endpoints page member endpoint inPage).isReadable,
    isReadable_pages fun _ _ broadcast _ => isReadable_broadcast broadcast⟩

theorem Catalog.IsWritable.isReadable {catalog : Catalog} (writable : catalog.IsWritable) :
    Json.IsReadable (depth + 7) catalog.toValue :=
  writable.isHeld.isReadable

end Readable

section Fields

variable {α : Type} {entries : List (Text × Value)} {name : Text} {value : Value} {checked : α}
  {check : Value → Checked α}

/-- A field that is there is checked. -/
theorem requiredField_of_valid (found : lastOf? entries name = some value)
    (valid : check value = .valid checked) : requiredField entries name check = .valid checked := by
  rw [requiredField, found]
  simp only [valid]
  rfl

theorem optionalField_of_valid {default : α} (found : lastOf? entries name = some value)
    (valid : check value = .valid checked) :
    optionalField entries name default check = .valid checked := by
  rw [optionalField, found]
  simp only [valid]
  rfl

/-- Items that are all checked from their values are checked as a list. -/
theorem items_map {toValue : α → Value} {items : List α}
    (each : ∀ item ∈ items, check (toValue item) = .valid item) :
    Checked.items check (items.map toValue) = .valid items := by
  suffices general : ∀ position, Checked.itemsFrom check position (items.map toValue) =
      .valid items from general 0
  induction items with
  | nil => exact fun _ => rfl
  | cons item rest inductionHypothesis =>
    intro position
    have following := inductionHypothesis (fun other member => each other (by simp [member]))
      (position + 1)
    rw [List.map_cons, Checked.itemsFrom, each item (by simp), following]
    rfl

/-- Pages whose signatures are all checked from their values are checked. -/
theorem checkPages_pages {toValue : α → Value} {pages : List (Text × List α)}
    (each : ∀ page ∈ pages, ∀ signature ∈ page.2, check (toValue signature) = .valid signature) :
    checkPages check (pages.map fun (page, signatures) => (page, .list (signatures.map toValue))) =
      .valid pages := by
  induction pages with
  | nil => rfl
  | cons page rest inductionHypothesis =>
    have following := inductionHypothesis fun other member => each other (by simp [member])
    have signatures := items_map (each page (by simp))
    simp only [List.map_cons, checkPages, signatures, following]
    rfl

/-- Distinct pages are read in their order. -/
theorem asPages_pagesValue {toValue : α → Value} {pages : List (Text × List α)}
    (distinct : (pages.map Prod.fst).Nodup)
    (each : ∀ page ∈ pages, ∀ signature ∈ page.2, check (toValue signature) = .valid signature) :
    asPages check (pagesValue toValue pages) = .valid pages := by
  rw [pagesValue, asPages, checkPages_pages each, Checked.map, collapse_of_nodup distinct]

end Fields

section Checks

/-- Scalars have no records to settle. -/
theorem Value.IsHeld.settled {value : Value} (held : value.IsHeld) : value.settled = value := by
  cases value with
  | list items => exact held.elim
  | record entries => exact held.elim
  | _ => rfl

theorem asText?_ofText? (text : Option Text) : asText? (.ofText? text) = .valid text := by
  cases text <;> rfl

/-- Unset, disabled and zero are three limits. -/
theorem asRateLimit_toValue (limit : RateLimit) : asRateLimit limit.toValue = .valid limit := by
  cases limit <;> rfl

theorem asConditionKind_name (kind : ConditionKind) :
    asConditionKind (.text kind.name) = .valid kind := by
  rw [asConditionKind, ConditionKind.ofName?_name]

/-- A condition is checked from its value. -/
theorem asCondition_toValue {condition : AuthCondition} (held : condition.expected.IsHeld) :
    asCondition condition.toValue = .valid condition := by
  have kind {entries} (found : lastOf? entries "kind".toList = some (.text condition.kind.name)) :
      requiredField entries "kind".toList asConditionKind = .valid condition.kind :=
    requiredField_of_valid found (asConditionKind_name condition.kind)
  have expected {entries} (found : lastOf? entries "expected".toList = some condition.expected) :
      optionalField entries "expected".toList .null (fun value => .valid value.settled) =
        .valid condition.expected :=
    optionalField_of_valid found (congrArg Checked.valid held.settled)
  rw [AuthCondition.toValue, asCondition, checkModel, kind rfl, expected rfl]
  rfl

/-- A requirement is checked from its value. -/
theorem asAuth_toValue {auth : AuthDescriptor}
    (expected : ∀ condition ∈ auth.additional, condition.expected.IsHeld) :
    asAuth auth.toValue = .valid auth := by
  have conditions : asConditions (.list (auth.additional.map AuthCondition.toValue)) =
      .valid auth.additional :=
    items_map fun condition member => asCondition_toValue (expected condition member)
  have additional {entries} (found : lastOf? entries "additional".toList =
        some (.list (auth.additional.map AuthCondition.toValue))) :
      optionalField entries "additional".toList [] asConditions = .valid auth.additional :=
    optionalField_of_valid found conditions
  have raw {entries} (found : lastOf? entries "raw".toList = some (.ofText? auth.raw)) :
      optionalField entries "raw".toList none asText? = .valid auth.raw :=
    optionalField_of_valid found (asText?_ofText? auth.raw)
  rw [AuthDescriptor.toValue, asAuth, checkModel, additional rfl, raw rfl]
  rfl

/-- An endpoint is checked from its value. -/
theorem asEndpoint_toValue {endpoint : Endpoint} (held : endpoint.IsHeld) :
    asEndpoint endpoint.toValue = .valid endpoint := by
  have description {entries}
      (found : lastOf? entries "description".toList = some (.ofText? endpoint.description)) :
      optionalField entries "description".toList none asText? = .valid endpoint.description :=
    optionalField_of_valid found (asText?_ofText? endpoint.description)
  have auth {entries} (found : lastOf? entries "auth".toList = some endpoint.auth.toValue) :
      optionalField entries "auth".toList {} asAuth = .valid endpoint.auth :=
    optionalField_of_valid found (asAuth_toValue held.expected)
  have rateLimit {entries}
      (found : lastOf? entries "rate_limit".toList = some endpoint.rateLimit.toValue) :
      optionalField entries "rate_limit".toList .unset asRateLimit = .valid endpoint.rateLimit :=
    optionalField_of_valid found (asRateLimit_toValue endpoint.rateLimit)
  rw [Endpoint.toValue, asEndpoint, checkModel, description rfl, auth rfl, rateLimit rfl]
  rfl

/-- A broadcast is checked from its value. -/
theorem asBroadcast_toValue (broadcast : Broadcast) :
    asBroadcast broadcast.toValue = .valid broadcast :=
  rfl

/-- A catalog is checked from its value. -/
theorem Catalog.IsHeld.asCatalog_toValue {catalog : Catalog} (held : catalog.IsHeld) :
    asCatalog catalog.toValue = .valid catalog := by
  have endpoints : asPages asEndpoint (pagesValue Endpoint.toValue catalog.endpoints) =
      .valid catalog.endpoints :=
    asPages_pagesValue held.distinctEndpoints fun page member endpoint inPage =>
      asEndpoint_toValue (held.endpoints page member endpoint inPage)
  have broadcasts : asPages asBroadcast (pagesValue Broadcast.toValue catalog.broadcasts) =
      .valid catalog.broadcasts :=
    asPages_pagesValue held.distinctBroadcasts fun _ _ broadcast _ =>
      asBroadcast_toValue broadcast
  rw [Catalog.toValue, asCatalog, checkModel, optionalField_of_valid rfl endpoints,
    optionalField_of_valid rfl broadcasts]
  rfl

theorem asCatalog_toValue {catalog : Catalog} (writable : catalog.IsWritable) :
    asCatalog catalog.toValue = .valid catalog :=
  writable.isHeld.asCatalog_toValue

end Checks

/-- A document is read as the catalog that it holds. -/
theorem Catalog.IsHeld.read_eq {catalog : Catalog} (held : catalog.IsHeld) :
    Catalog.read catalog.write = .ok catalog := by
  have readable : Json.IsReadable Json.maxDepth catalog.toValue := held.isReadable
  rw [Catalog.read, Catalog.write, Json.read?_write readable]
  simp only [held.asCatalog_toValue]
  rfl

/-- A catalog with every rate limit and every kind of expected value, whose texts hold quotes,
control characters and characters beyond the basic plane. -/
def exampleCatalog : Catalog := {
  endpoints := [
    ("rooms".toList, [
      { page := "rooms".toList
        name := "list".toList
        description := some "\"quoted\" \\ tab\tline\n\x01".toList
        input := "\x7b id: string \x7d".toList
        auth := {
          requiresLogin := true
          additional := [
            ⟨"role".toList, .value, .text "false".toList⟩,
            ⟨"level".toList, .value, .int (-1)⟩,
            ⟨"level".toList, .value, .int 0⟩,
            ⟨"email".toList, .nullish, .bool false⟩,
            ⟨[], .falsy, .null⟩]
          known := true }
        rateLimit := .perMinute 0 },
      { page := "rooms".toList
        name := "größe".toList
        auth := { raw := some "login".toList }
        rateLimit := .disabled }]),
    ([], [{ page := "😀".toList, name := "unset".toList }])],
  broadcasts := [
    ("rooms".toList, []),
    ("a".toList, [{ page := "a".toList, name := "move".toList, clientInput := [] }])] }

end RouteCatalog
