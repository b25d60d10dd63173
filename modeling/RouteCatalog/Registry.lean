import RouteCatalog.Delimiter.Block
import RouteCatalog.Handler
import RouteCatalog.Text.Uppercase

/-!
# The type registry

The registry is source text with two interfaces, `ApiTypeMap` and `SyncTypeMap`. Each maps pages to
names, names to versions and versions to the fields of a signature. A name whose entries are fields
already is a signature of the first version. Rows and values that are not blocks are passed over.
-/

namespace RouteCatalog

/-- A signature as it stands in the registry. -/
structure SignatureBlock where
  page : Text
  name : Text
  version : Text
  fields : List (Text × Text)
  deriving DecidableEq, Repr

/-- The fields of an endpoint that tell a signature from a list of versions. -/
def endpointFields : List Text :=
  ["input".toList, "output".toList, "method".toList]

/-- The fields of a broadcast that tell a signature from a list of versions. -/
def broadcastFields : List Text :=
  ["clientInput".toList, "serverOutput".toList, "clientOutput".toList]

/-- The entries of a body whose values are blocks, with the interiors of the blocks. -/
def blocksOf (body : Text) : List (Text × Text) :=
  (entriesOf body).filterMap fun (key, value) => (unwrapBraces? value).map fun inside => (key, inside)

/-- The signatures of one name. -/
def signaturesOfName (signatureFields : List Text) (page name body : Text) : List SignatureBlock :=
  let entries := entriesOf body
  if entries.any fun entry => signatureFields.contains entry.1 then
    [{ page, name, version := defaultVersion, fields := entries }]
  else
    (blocksOf body).map fun (version, inside) => { page, name, version, fields := entriesOf inside }

/-- The signatures of the body of a type map, in their order. -/
def signaturesOf (signatureFields : List Text) (body : Text) : List SignatureBlock :=
  (blocksOf body).flatMap fun (page, pageBody) =>
    (blocksOf pageBody).flatMap fun (name, nameBody) =>
      signaturesOfName signatureFields page name nameBody

/-- The body of an exported interface: everything after its brace if it is never closed, and nothing
if there is no such interface. -/
def interfaceBody (name source : Text) : Text :=
  match Text.firstMatch (atInterfaceBody? name) source with
  | none => []
  | some opened => (interior? opened).getD (opened.drop 1)

/-- A field of a signature; an empty one counts as absent. -/
def SignatureBlock.field (block : SignatureBlock) (key default : Text) : Text :=
  match lastOf? block.fields key with
  | none | some [] => default
  | some value => value

/-- A text without the quotes around it. -/
def unquote (text : Text) : Text :=
  (Text.unwrapMarks? ['\'', '"'] text.trim).getD text.trim

/-- The endpoint of a signature and of what its handler says. -/
def SignatureBlock.toEndpoint (block : SignatureBlock) (handler : HandlerMeta) : Endpoint :=
  let method := unquote (block.field "method".toList [])
  let registered : RateLimit :=
    match lastOf? block.fields "rateLimit".toList with
    | some literal => .ofLiteral literal
    | none => .unset
  { page := block.page
    name := block.name
    version := block.version
    method := Text.upper (if method.isEmpty then defaultMethod else method)
    description := handler.description
    input := block.field "input".toList defaultShape
    output := block.field "output".toList defaultShape
    auth := handler.auth
    rateLimit := handler.rateLimit.orElse registered }

/-- The broadcast of a signature. -/
def SignatureBlock.toBroadcast (block : SignatureBlock) : Broadcast :=
  { page := block.page
    name := block.name
    version := block.version
    clientInput := block.field "clientInput".toList defaultShape
    serverOutput := block.field "serverOutput".toList defaultShape
    clientOutput := block.field "clientOutput".toList defaultShape }

/-- The catalog of registry source, given what the handler of each endpoint says. -/
def catalogOfSource {ε : Type} (handlerOf : SignatureBlock → Except ε HandlerMeta) (source : Text) :
    Except ε Catalog := do
  let code := stripComments source
  let endpoints ← (signaturesOf endpointFields (interfaceBody "ApiTypeMap".toList code)).mapM
    fun block => do return (block.page, block.toEndpoint (← handlerOf block))
  let broadcasts := (signaturesOf broadcastFields (interfaceBody "SyncTypeMap".toList code)).map
    fun block => (block.page, block.toBroadcast)
  return { endpoints := grouped endpoints, broadcasts := grouped broadcasts }

/-- Why a registry gives no catalog. -/
inductive RegistryFault where
  /-- There is no file at the path. -/
  | notFound (path : Path)
  /-- The file at the path is no text. -/
  | unreadable (path : Path) (malformed : Utf8.Malformed)
  /-- The path of the registry or of a handler is not one that files can have. -/
  | badPath (fault : FileFault)
  deriving DecidableEq, Repr

namespace RegistryFault

/-- That there is no registry, in words. -/
def notFoundMessage (path : Path) : Text :=
  path.name ++ " not found (".toList ++ path.text ++ [')']

/-- That a registry is no text, in words. -/
def unreadableMessage (path : Path) (malformed : Utf8.Malformed) : Text :=
  "Cannot read ".toList ++ path.name ++ " (".toList ++ path.text ++ "): ".toList ++
    malformed.message

/-- The fault in words; a bad path has none of its own. -/
def message? : RegistryFault → Option Text
  | notFound path => some (notFoundMessage path)
  | unreadable path malformed => some (unreadableMessage path malformed)
  | badPath _ => none

end RegistryFault

/-- The catalog of the registry at a path, with what the handlers below a root say. -/
def extractCatalog (workspace : Workspace) (registry : Path) (root? : Option Path)
    (extensions : List Text) : Except RegistryFault Catalog := do
  let extensions := if extensions.isEmpty then defaultExtensions else extensions
  let handlerOf (block : SignatureBlock) : Except FileFault HandlerMeta :=
    match root? with
    | none => .ok {}
    | some root => do
      let path? ← findHandler workspace root block.page block.name block.version extensions
      readHandlerMeta workspace path?
  match workspace.isFile registry with
  | .error fault => throw (.badPath fault)
  | .ok false => throw (.notFound registry)
  | .ok true =>
    match workspace.readText registry with
    | .error (.malformed malformed) => throw (.unreadable registry malformed)
    | .error fault => throw (.badPath fault)
    | .ok source => (catalogOfSource handlerOf source).mapError .badPath

end RouteCatalog
