import RouteCatalog.Auth
import RouteCatalog.RateLimit
import RouteCatalog.Route

/-!
# The catalog of signatures

A catalog holds the endpoints and broadcasts of every page, in the order in which they were found.
Looking a signature up without a version gives the one with the greatest version.
-/

namespace RouteCatalog

/-- The method of an endpoint that names none. -/
def defaultMethod : Text := "POST".toList

/-- The shape of an input or output that is not given. -/
def defaultShape : Text := ['{', '}']

/-- A request endpoint of one page. -/
structure Endpoint where
  page : Text
  name : Text
  version : Text := defaultVersion
  method : Text := defaultMethod
  description : Option Text := none
  input : Text := defaultShape
  output : Text := defaultShape
  auth : AuthDescriptor := {}
  rateLimit : RateLimit := .unset
  deriving DecidableEq, Repr

/-- An event that is broadcast to every client of a room. -/
structure Broadcast where
  page : Text
  name : Text
  version : Text := defaultVersion
  clientInput : Text := defaultShape
  serverOutput : Text := defaultShape
  clientOutput : Text := defaultShape
  deriving DecidableEq, Repr

/-- How an endpoint is called. -/
def Endpoint.target (endpoint : Endpoint) : CallTarget :=
  { kind := .api, page := endpoint.page, name := endpoint.name, version := endpoint.version }

/-- How a broadcast is called. -/
def Broadcast.target (broadcast : Broadcast) : CallTarget :=
  { kind := .sync, page := broadcast.page, name := broadcast.name, version := broadcast.version }

/-- All signatures under their pages. -/
structure Catalog where
  endpoints : List (Text × List Endpoint) := []
  broadcasts : List (Text × List Broadcast) := []
  deriving DecidableEq, Repr

/-- The signature with the greatest version among those with a name and, if it is given, a version.
The versions of all candidates are read, also of a single one. -/
def findLatest {α : Type} (target : α → CallTarget) (name : Text) (version? : Option Text)
    (signatures : List α) : Except NumberTooLong (Option α) := do
  let candidates := signatures.filter fun signature =>
    (target signature).name = name &&
      match version? with
      | none => true
      | some version => (target signature).version = version
  let keyed ← candidates.mapM fun signature => do
    return (← VersionKey.ofVersion (target signature).version, signature)
  return latestOf? keyed

namespace Catalog

/-- The endpoint of a page with a name, of the given or the greatest version. -/
def findEndpoint (catalog : Catalog) (page name : Text) (version? : Option Text) :
    Except NumberTooLong (Option Endpoint) :=
  findLatest Endpoint.target name version? ((firstOf? catalog.endpoints page).getD [])

/-- The broadcast of a page with a name, of the given or the greatest version. -/
def findBroadcast (catalog : Catalog) (page name : Text) (version? : Option Text) :
    Except NumberTooLong (Option Broadcast) :=
  findLatest Broadcast.target name version? ((firstOf? catalog.broadcasts page).getD [])

/-- The number of signatures of both kinds. -/
def count (catalog : Catalog) : Nat :=
  (catalog.endpoints.flatMap Prod.snd).length + (catalog.broadcasts.flatMap Prod.snd).length

end Catalog

end RouteCatalog
