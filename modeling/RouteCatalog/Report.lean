import RouteCatalog.Catalog
import RouteCatalog.Layout
import RouteCatalog.Settings
import RouteCatalog.Shape
import RouteCatalog.Snippet

/-!
# Reports

What is shown of a catalog and of one signature, as paragraphs: each becomes a line of the output, or
several where a text in it has several lines.
-/

namespace RouteCatalog

/-- A text with spaces after it up to a width. -/
def padTo (width : Nat) (text : Text) : Text :=
  text ++ List.replicate (width - text.length) ' '

/-- The line of an endpoint in a listing. -/
def Endpoint.listed (endpoint : Endpoint) : Text :=
  "    ".toList ++ padTo 6 endpoint.method ++ ' ' :: endpoint.target.requestName ++
    ' ' :: endpoint.version ++ "  ".toList ++ endpoint.target.route ++
    "  [".toList ++ endpoint.auth.summary ++ [']']

/-- The line of a broadcast in a listing. -/
def Broadcast.listed (broadcast : Broadcast) : Text :=
  "    SYNC   ".toList ++ broadcast.target.requestName ++ ' ' :: broadcast.version ++
    "  ".toList ++ broadcast.target.route

/-- The pages of a listing, each with the lines of its signatures. -/
def listedPages {α : Type} (listed : α → Text) (pages : List (Text × List α)) : List Text :=
  pages.flatMap fun (page, signatures) => ("  ".toList ++ page) :: signatures.map listed

/-- All signatures of a catalog, page by page. -/
def Catalog.listing (catalog : Catalog) : List Text :=
  "APIs".toList :: listedPages Endpoint.listed catalog.endpoints ++
    "Syncs".toList :: listedPages Broadcast.listed catalog.broadcasts

/-- A field of a shape in a report. -/
def Field.listed (field : Field) : Text :=
  "  - ".toList ++ field.key ++
    (if field.optional then " (optional): " else " (required): ").toList ++ field.type

/-- The title of a shape. -/
def shapeTitle (title : String) : Text :=
  title.toList ++ [':']

/-- A shape with its fields, under a title. -/
def shapeReport (indent : Int) (title : String) (shape : Text) : List Text :=
  [shapeTitle title, layout indent shape] ++ (fieldsOf shape).map Field.listed ++ [[]]

/-- What is shown of a signature before its example: paragraphs, then shapes under titles. -/
structure SignatureReport where
  heading : List Text
  shapes : List (String × Text)
  deriving DecidableEq, Repr

/-- The paragraphs of a report. -/
def SignatureReport.paragraphs (report : SignatureReport) (indent : Int) : List Text :=
  report.heading ++ report.shapes.flatMap fun (title, shape) => shapeReport indent title shape

/-- The paragraphs up to the first title. -/
def SignatureReport.opening (report : SignatureReport) : List Text :=
  report.heading ++ (report.shapes.take 1).map fun (title, _) => shapeTitle title

/-- The number of requests per minute in a report. -/
def requestRate (number : Int) : Except NumberTooLong Text :=
  if isTooLong number then .error {} else .ok (intText number ++ " requests / min".toList)

/-- A rate limit in a report; an endpoint without one has the default. -/
def RateLimit.reported (default : Int) (limit : RateLimit) : Except NumberTooLong Text := do
  let rate ←
    match limit with
    | disabled => pure "None".toList
    | unset => (requestRate default).map fun rate => rate ++ " (default)".toList
    | perMinute number => requestRate number
  return "Rate limit: ".toList ++ rate

/-- A text on a line of its own, unless it is absent or empty. -/
def remark (text? : Option Text) : List Text :=
  (text?.filter (· ≠ [])).toList

/-- What is shown of an endpoint before its rate limit. -/
def Endpoint.introduction (endpoint : Endpoint) : List Text :=
  [endpoint.method ++ ' ' :: endpoint.target.route] ++ remark endpoint.description ++ [[]] ++
    ["Auth: ".toList ++ endpoint.auth.summary] ++ remark endpoint.auth.raw

/-- What is shown of an endpoint before its example. -/
def Endpoint.report (endpoint : Endpoint) (defaultRateLimit : Int) :
    Except NumberTooLong SignatureReport := do
  let limit ← endpoint.rateLimit.reported defaultRateLimit
  return {
    heading := endpoint.introduction ++ [limit, []]
    shapes := [("Input", endpoint.input), ("Output", endpoint.output)] }

/-- What is shown of a broadcast before its example. -/
def Broadcast.report (broadcast : Broadcast) : SignatureReport where
  heading := ["SYNC ".toList ++ broadcast.target.route, []]
  shapes := [
    ("Client input (trigger)", broadcast.clientInput),
    ("Server output (broadcast)", broadcast.serverOutput),
    ("Client output (local)", broadcast.clientOutput)]

/-- An example payload and the calls with it. -/
def CallTarget.exampleReport (target : CallTarget) (payload : Value) : List Text := [
  "Example payload:".toList,
  Json.write payloadNotation payload,
  [],
  "Request:".toList,
  requestSnippet target payload,
  [],
  "Socket message:".toList,
  messageSnippet target payload]

end RouteCatalog
