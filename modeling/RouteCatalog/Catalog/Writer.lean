import RouteCatalog.Catalog
import RouteCatalog.Json.Writer

/-!
# Writing catalogs

The document of a catalog: pages in order, and for each signature its fields in a fixed order with
its route last.
-/

namespace RouteCatalog

/-- A text that may be absent. -/
def Value.ofText? : Option Text → Value
  | none => .null
  | some characters => .text characters

/-- The value of a condition. -/
def AuthCondition.toValue (condition : AuthCondition) : Value :=
  .record [
    ("key".toList, .text condition.key),
    ("kind".toList, .text condition.kind.name),
    ("expected".toList, condition.expected)]

/-- The value of an auth requirement. -/
def AuthDescriptor.toValue (auth : AuthDescriptor) : Value :=
  .record [
    ("requires_login".toList, .bool auth.requiresLogin),
    ("additional".toList, .list (auth.additional.map AuthCondition.toValue)),
    ("known".toList, .bool auth.known),
    ("raw".toList, .ofText? auth.raw)]

/-- The value of a rate limit. -/
def RateLimit.toValue : RateLimit → Value
  | unset => .null
  | disabled => .bool false
  | perMinute requests => .int requests

/-- The value of an endpoint. -/
def Endpoint.toValue (endpoint : Endpoint) : Value :=
  .record [
    ("page".toList, .text endpoint.page),
    ("name".toList, .text endpoint.name),
    ("version".toList, .text endpoint.version),
    ("method".toList, .text endpoint.method),
    ("description".toList, .ofText? endpoint.description),
    ("input".toList, .text endpoint.input),
    ("output".toList, .text endpoint.output),
    ("auth".toList, endpoint.auth.toValue),
    ("rate_limit".toList, endpoint.rateLimit.toValue),
    ("route_id".toList, .text endpoint.target.route)]

/-- The value of a broadcast. -/
def Broadcast.toValue (broadcast : Broadcast) : Value :=
  .record [
    ("page".toList, .text broadcast.page),
    ("name".toList, .text broadcast.name),
    ("version".toList, .text broadcast.version),
    ("client_input".toList, .text broadcast.clientInput),
    ("server_output".toList, .text broadcast.serverOutput),
    ("client_output".toList, .text broadcast.clientOutput),
    ("route_id".toList, .text broadcast.target.route)]

/-- The value of signatures under their pages. -/
def pagesValue {α : Type} (toValue : α → Value) (pages : List (Text × List α)) : Value :=
  .record (pages.map fun (page, signatures) => (page, .list (signatures.map toValue)))

namespace Catalog

/-- The value of a catalog. -/
def toValue (catalog : Catalog) : Value :=
  .record [
    ("endpoints".toList, pagesValue Endpoint.toValue catalog.endpoints),
    ("broadcasts".toList, pagesValue Broadcast.toValue catalog.broadcasts)]

/-- The document of a catalog. -/
def write (catalog : Catalog) : Text :=
  Json.write documentNotation catalog.toValue

end Catalog

end RouteCatalog
