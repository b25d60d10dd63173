import RouteCatalog.Keyed
import RouteCatalog.Number.Decimal

/-!
# Call targets

A signature is called by its kind, page, name and version. The route joins them with slashes; the
page that stands for the top of the site is left out. Versions are ordered by the first number in
them and then as texts.
-/

namespace RouteCatalog

/-- The page that stands for the top of the site and has no part in routes. -/
def rootPage : Text := "root".toList

/-- What is called: a request endpoint, or an event that is broadcast to a room. -/
inductive RouteKind where
  | api
  | sync
  deriving DecidableEq, Repr

/-- The first part of the routes of a kind. -/
def RouteKind.lead : RouteKind → Text
  | api => "api".toList
  | sync => "sync".toList

/-- The parts joined with slashes, without the page if it is the root page. -/
def joinRoute (lead page name version : Text) : Text :=
  if page = rootPage then lead ++ '/' :: name ++ '/' :: version
  else lead ++ '/' :: page ++ '/' :: name ++ '/' :: version

/-- A signature as callers see it. -/
structure CallTarget where
  kind : RouteKind
  page : Text
  name : Text
  version : Text
  deriving DecidableEq, Repr

/-- The version of a signature that names none. -/
def defaultVersion : Text := "v1".toList

namespace CallTarget

/-- The endpoint that a plain mapping names, or the key that it lacks. -/
def ofMapping (fields : List (Text × Text)) : Except Text CallTarget := do
  let require (key : Text) : Except Text Text :=
    match firstOf? fields key with
    | some value => .ok value
    | none => .error key
  let page ← require "page".toList
  let name ← require "name".toList
  let version := (firstOf? fields "version".toList).getD defaultVersion
  return { kind := .api, page, name, version }

/-- The route of a target. -/
def route (target : CallTarget) : Text :=
  joinRoute target.kind.lead target.page target.name target.version

/-- The name that is passed to the request helpers. -/
def requestName (target : CallTarget) : Text :=
  if target.page = rootPage then target.name else target.page ++ '/' :: target.name

/-- The route is the kind, the name in requests and the version, joined with slashes. -/
theorem route_eq_join (target : CallTarget) :
    target.route = Text.join ['/'] [target.kind.lead, target.requestName, target.version] := by
  by_cases root : target.page = rootPage <;>
    simp [route, joinRoute, requestName, Text.join, root]

end CallTarget

/-- What orders versions. -/
structure VersionKey where
  /-- The first number in the version, zero if there is none. -/
  number : Nat
  version : Text
  deriving DecidableEq, Repr

namespace VersionKey

/-- The key of a version. -/
def ofVersion (version : Text) : Except NumberTooLong VersionKey :=
  let digits := leadingDigits (version.dropWhile fun character => !isDigit character)
  if maxIntegerDigits < digits.length then .error {}
  else .ok { number := digitsValue digits, version }

/-- Does the first key come before the second, or are they equal? -/
def precedesOrEq (left right : VersionKey) : Bool :=
  left.number < right.number ||
    (left.number == right.number && Text.precedesOrEq left.version right.version)

end VersionKey

/-- The first of the items with the greatest key. -/
def latestOf? {α : Type} : List (VersionKey × α) → Option α
  | [] => none
  | first :: rest =>
    some (rest.foldl (fun best item => if item.1.precedesOrEq best.1 then best else item) first).2

end RouteCatalog
