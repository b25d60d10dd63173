import RouteCatalog.Catalog
import RouteCatalog.Proofs.Text.Pieces

/-!
# Routes tell signatures apart

The root page has no part in a route, and other pages may be empty or hold slashes, so the number of
slashes does not tell the parts of a route. Yet a route belongs to one signature only, and a name in
requests to one page and name, as long as names and versions hold no slash:
`route_identifies_signature`. The argument reads a route from its end.
-/

namespace RouteCatalog

namespace CallTarget

/-- Signatures with the same name in requests have the same page and name. -/
theorem eq_of_requestName {left right : CallTarget} (leftName : '/' ∉ left.name)
    (rightName : '/' ∉ right.name) (same : left.requestName = right.requestName) :
    left.page = right.page ∧ left.name = right.name := by
  unfold requestName at same
  split at same <;> rename_i leftRoot <;> split at same <;> rename_i rightRoot
  · exact ⟨leftRoot.trans rightRoot.symm, same⟩
  · exact absurd (by simp [same]) leftName
  · exact absurd (by simp [← same]) rightName
  · exact Text.eq_of_append_separator leftName rightName same

/-- Signatures with the same route are of the same kind, and have the same version and the same name
in requests. -/
theorem eq_of_route {left right : CallTarget} (leftVersion : '/' ∉ left.version)
    (rightVersion : '/' ∉ right.version) (same : left.route = right.route) :
    left.kind = right.kind ∧ left.requestName = right.requestName ∧
      left.version = right.version := by
  have parts : ∀ target : CallTarget, target.route =
      (target.kind.lead ++ '/' :: target.requestName) ++ '/' :: target.version := by
    intro target
    simp [route_eq_join, Text.join]
  rw [parts, parts] at same
  obtain ⟨front, version⟩ := Text.eq_of_append_separator leftVersion rightVersion same
  have kind : left.kind = right.kind := by
    cases leftKind : left.kind <;> cases rightKind : right.kind <;>
      simp_all [RouteKind.lead]
  rw [kind] at front
  exact ⟨kind, by simpa using front, version⟩

end CallTarget

/-- What a route can be asked for: a signature of a catalog, or a plain mapping that names an
endpoint. -/
inductive Signature where
  | endpoint (signature : Endpoint)
  | broadcast (signature : Broadcast)
  | mapping (fields : List (Text × Text))
  deriving DecidableEq, Repr

/-- How the signature is called, or the key that a mapping lacks. -/
def Signature.target : Signature → Except Text CallTarget
  | endpoint signature => .ok signature.target
  | broadcast signature => .ok signature.target
  | mapping fields => CallTarget.ofMapping fields

/-- A mapping with a page and a name is called, by the default version if it has none. -/
theorem CallTarget.ofMapping_eq_ok {fields : List (Text × Text)} {page name : Text}
    (hasPage : firstOf? fields "page".toList = some page)
    (hasName : firstOf? fields "name".toList = some name) :
    ofMapping fields = .ok {
      kind := .api, page, name
      version := (firstOf? fields "version".toList).getD defaultVersion } := by
  simp only [ofMapping, hasPage, hasName]
  rfl

/-- Signatures whose names and versions hold no slash have the same route only if they are of the same
kind and have the same page, name and version, and the same name in requests only if they have the
same page and name. Every route is the kind, the name in requests and the version, joined with
slashes. -/
theorem route_identifies_signature :
    (∀ (left right : Signature) (first second : CallTarget),
      left.target = .ok first → right.target = .ok second →
      '/' ∉ first.name → '/' ∉ first.version → '/' ∉ second.name → '/' ∉ second.version →
      first.route = second.route → first = second) ∧
    (∀ (left right : Signature) (first second : CallTarget),
      left.target = .ok first → right.target = .ok second →
      '/' ∉ first.name → '/' ∉ second.name → first.requestName = second.requestName →
      first.page = second.page ∧ first.name = second.name) ∧
    (∀ (signature : Signature) (target : CallTarget), signature.target = .ok target →
      target.route = Text.join ['/'] [target.kind.lead, target.requestName, target.version]) ∧
    ∀ (fields : List (Text × Text)) (page name : Text),
      firstOf? fields "page".toList = some page → firstOf? fields "name".toList = some name →
      (Signature.mapping fields).target = .ok {
        kind := .api, page, name
        version := (firstOf? fields "version".toList).getD defaultVersion } := by
  refine ⟨?_, ?_, fun _ target _ => target.route_eq_join,
    fun _ _ _ hasPage hasName => CallTarget.ofMapping_eq_ok hasPage hasName⟩
  · intro left right first second _ _ firstName firstVersion secondName secondVersion same
    obtain ⟨kind, requestName, version⟩ :=
      CallTarget.eq_of_route firstVersion secondVersion same
    obtain ⟨page, name⟩ := CallTarget.eq_of_requestName firstName secondName requestName
    cases first
    cases second
    simp_all
  · intro left right first second _ _ firstName secondName same
    exact CallTarget.eq_of_requestName firstName secondName same

/-- An endpoint of a page with slashes, without a name, and a mapping that leaves the version out. -/
theorem route_identifies_signature_example :
    let page := "/api//".toList
    let fields := [("name".toList, []), ("page".toList, page)]
    let listed : CallTarget := { kind := .api, page, name := [], version := "v1".toList }
    let named : CallTarget := { kind := .api, page, name := [], version := defaultVersion }
    (Signature.endpoint { page, name := [] }).target = .ok listed ∧
      (Signature.mapping fields).target = .ok named ∧ listed.route = named.route ∧
      listed = named ∧ listed.page = page ∧ listed.route = "api//api////v1".toList := by
  intro page fields listed named
  obtain ⟨sameRoute, sameName, joined, mapped⟩ := route_identifies_signature
  have called : (Signature.mapping fields).target = .ok named := mapped fields page [] rfl rfl
  have identified : listed = named :=
    sameRoute (.endpoint { page, name := [] }) (.mapping fields) listed named rfl called
      (by decide) (by decide) (by decide) (by decide) rfl
  have pages : listed.page = named.page ∧ listed.name = named.name :=
    sameName (.endpoint { page, name := [] }) (.mapping fields) listed named rfl called
      (by decide) (by decide) rfl
  refine ⟨rfl, called, rfl, identified, pages.1, ?_⟩
  exact (joined (.endpoint { page, name := [] }) listed rfl).trans (by decide)

end RouteCatalog
