import RouteCatalog.Catalog
import RouteCatalog.Comment
import RouteCatalog.Handler.Auth
import RouteCatalog.Handler.Description
import RouteCatalog.Handler.RateLimit
import RouteCatalog.Workspace

/-!
# Handler files

The file that implements an endpoint, and what it says about the endpoint. A handler lies in the
folder `_api` of its page and is named for the endpoint and its version; the first version may leave
its version out. A handler that cannot be decoded says nothing.
-/

namespace RouteCatalog

/-- The folder of the handlers of a page. -/
def handlerFolder : Text := "_api".toList

/-- The suffixes of handler files, unless configured otherwise. -/
def defaultExtensions : List Text :=
  [".ts".toList, ".tsx".toList, ".js".toList]

/-- The names that the handler file of a signature may have, without suffix. -/
def handlerStems (name version : Text) : List Text :=
  (name ++ '_' :: version) :: if version = defaultVersion then [name] else []

/-- The paths at which the handler of a signature is looked for, in order. -/
def handlerCandidates (root : Path) (page name version : Text) (extensions : List Text) :
    List Path :=
  let folder := (if page = rootPage then root else root.child page).child handlerFolder
  (handlerStems name version).flatMap fun stem =>
    extensions.map fun extension => folder.child (stem ++ extension)

/-- The first of several paths that leads to a file. -/
def firstFile? (workspace : Workspace) : List Path → Except FileFault (Option Path)
  | [] => .ok none
  | path :: rest =>
    match workspace.isFile path with
    | .ok true => .ok (some path)
    | .ok false => firstFile? workspace rest
    | .error fault => .error fault

/-- The handler file of a signature. -/
def findHandler (workspace : Workspace) (root : Path) (page name version : Text)
    (extensions : List Text) : Except FileFault (Option Path) :=
  firstFile? workspace (handlerCandidates root page name version extensions)

/-- What a handler says about its endpoint. -/
structure HandlerMeta where
  auth : AuthDescriptor := {}
  rateLimit : RateLimit := .unset
  description : Option Text := none
  deriving DecidableEq, Repr

/-- What the source text of a handler says. Comments count for the description only. -/
def HandlerMeta.ofSource (source : Text) : HandlerMeta :=
  let code := stripComments source
  { auth := readAuth code, rateLimit := readRateLimit code, description := readDescription? source }

/-- What the handler at a path says; nothing if there is no path or no file, or no text in it. -/
def readHandlerMeta (workspace : Workspace) (path? : Option Path) : Except FileFault HandlerMeta := do
  match path? with
  | none => return {}
  | some path =>
    if ← workspace.isFile path then
      match workspace.readText path with
      | .ok source => return .ofSource source
      | .error (.malformed _) => return {}
      | .error fault => throw fault
    else return {}

end RouteCatalog
