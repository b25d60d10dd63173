import RouteCatalog.Text.Blank
import RouteCatalog.Text.Utf8
import RouteCatalog.Workspace.Path

/-!
# Workspaces

The files, folders and devices that a command can see, as a value: what is found at each location,
and the location that relative paths start from. Walking a path visits one location after the other,
so two dots after a name need that name to be a folder. Names have at most 255 bytes and paths at
most 4095.
-/

namespace RouteCatalog

/-- What is found at a location. -/
inductive Node where
  | file (bytes : List UInt8)
  | folder
  /-- A device that is no file: it is empty, whatever is written to it. -/
  | sink
  deriving DecidableEq, Repr

/-- The names from the root of all files to what is found there. -/
abbrev Location := List Text

/-- What there is, and the folder that relative paths start from. -/
structure Workspace where
  here : Location
  nodes : List (Location × Node)
  deriving DecidableEq, Repr

/-- Why a path leads to no file, or a file cannot be read or written. -/
inductive FileFault where
  | absent
  | notFolder
  | isFolder
  | occupied
  | nameTooLong
  | nulInPath
  /-- The bytes are no text. -/
  | malformed (malformed : Utf8.Malformed)
  deriving DecidableEq, Repr

/-- The most bytes that one name may have. -/
def maxNameBytes : Nat := 255

/-- The most bytes that a path may have. -/
def maxPathBytes : Nat := 4095

/-- Is the text of a path too long for the system? -/
def isOverlong (text : Text) : Bool :=
  maxPathBytes < (Utf8.encode text).length

/-- Why a path cannot be looked up at all, whatever files there are. -/
def Path.fault? (path : Path) : Option FileFault :=
  if path.names.any (·.contains '\x00') then some .nulInPath
  else if isOverlong path.text then some .nameTooLong
  else none

namespace Workspace

/-- What is found at a location; the root of all files is a folder. -/
def node? (workspace : Workspace) (location : Location) : Option Node :=
  match location with
  | [] => some .folder
  | _ => (workspace.nodes.find? (·.1 = location)).map Prod.snd

/-- Where one name leads from a location, and what is found there. -/
def step (workspace : Workspace) (location : Location) (name : Text) :
    Except FileFault (Location × Node) :=
  match workspace.node? location with
  | none => .error .absent
  | some (.file _) | some .sink => .error .notFolder
  | some .folder =>
    if name = ['.', '.'] then .ok (location.dropLast, .folder)
    else if maxNameBytes < (Utf8.encode name).length then .error .nameTooLong
    else
      match workspace.node? (location ++ [name]) with
      | some node => .ok (location ++ [name], node)
      | none => .error .absent

/-- Where names lead from a location, and what is found there. -/
def walk (workspace : Workspace) (location : Location) (node : Node) :
    List Text → Except FileFault (Location × Node)
  | [] => .ok (location, node)
  | name :: rest =>
    match workspace.step location name with
    | .ok (next, found) => walk workspace next found rest
    | .error fault => .error fault

/-- The location that a path starts from. -/
def origin (workspace : Workspace) (path : Path) : Location :=
  if path.isAbsolute then [] else workspace.here

/-- What a path leads to. -/
def find (workspace : Workspace) (path : Path) : Except FileFault (Location × Node) :=
  match path.fault? with
  | some fault => .error fault
  | none => workspace.walk (workspace.origin path) .folder path.names

/-- Is there a file at the path? A name that is too long is a fault and not an answer. -/
def isFile (workspace : Workspace) (path : Path) : Except FileFault Bool :=
  match workspace.find path with
  | .ok (_, .file _) => .ok true
  | .error .nameTooLong => .error .nameTooLong
  | _ => .ok false

/-- Is there anything at the path? A name that is too long is a fault and not an answer. -/
def isPresent (workspace : Workspace) (path : Path) : Except FileFault Bool :=
  match workspace.find path with
  | .ok _ => .ok true
  | .error .nameTooLong => .error .nameTooLong
  | .error _ => .ok false

/-- Does the text of a path lead anywhere? The empty text does not, nor does one that is too long as
it is written, and what is followed by a slash has to be a folder. -/
def leadsSomewhere (workspace : Workspace) (text : Text) : Except FileFault Bool :=
  let wantsFolder := text.getLast? == some '/' || text.endsWith ['/', '.']
  match workspace.find (.ofText text) with
  | .ok (_, .file _) | .ok (_, .sink) => .ok (!wantsFolder && !isOverlong text)
  | .ok (_, .folder) => .ok (!text.isEmpty && !isOverlong text)
  | .error .nulInPath => .error .nulInPath
  | .error _ => .ok false

/-- The bytes that are found at the path. -/
def readBytes (workspace : Workspace) (path : Path) : Except FileFault (List UInt8) :=
  match workspace.find path with
  | .ok (_, .file bytes) => .ok bytes
  | .ok (_, .sink) => .ok []
  | .ok (_, .folder) => .error .isFolder
  | .error fault => .error fault

/-- The text of the file at the path, its line ends as they are. -/
def readExact (workspace : Workspace) (path : Path) : Except FileFault Text :=
  match workspace.readBytes path with
  | .ok bytes =>
    match Utf8.decode bytes with
    | .ok text => .ok text
    | .error malformed => .error (.malformed malformed)
  | .error fault => .error fault

/-- The text of the file at the path, every line end a line feed. -/
def readText (workspace : Workspace) (path : Path) : Except FileFault Text :=
  (workspace.readExact path).map Text.unifyLineEnds

/-- What is found in one workspace that another one has not, or has otherwise. -/
def changesSince (workspace earlier : Workspace) : List (Location × Node) :=
  workspace.nodes.filter fun (location, node) => earlier.node? location ≠ some node

/-- Put something at a location, in place of what is there. -/
def place (workspace : Workspace) (location : Location) (node : Node) : Workspace :=
  { workspace with
    nodes := (workspace.nodes.filter fun entry => entry.1 ≠ location) ++ [(location, node)] }

/-- What was put at a location is found there. -/
theorem node?_place (workspace : Workspace) {location : Location} (node : Node)
    (below : location ≠ []) : (workspace.place location node).node? location = some node := by
  have cleared : (workspace.nodes.filter fun entry => entry.1 ≠ location).find?
      (·.1 = location) = none := by
    simp [List.find?_eq_none]
  cases location with
  | nil => exact absurd rfl below
  | cons name rest => simp only [node?, place, List.find?_append, cleared]; simp

/-- What is found at any other location stays. -/
theorem node?_place_of_ne (workspace : Workspace) {location other : Location} (node : Node)
    (different : other ≠ location) :
    (workspace.place location node).node? other = workspace.node? other := by
  have passed : ((location, node).1 = other) = False := by simpa using different.symm
  cases other with
  | nil => rfl
  | cons name rest =>
    simp only [node?, place, List.find?_append, List.find?_filter, List.find?_cons, passed,
      decide_false, List.find?_nil, Option.or_none]
    congr 2
    funext entry
    by_cases here : entry.1 = name :: rest
    · simp [here, different]
    · simp [here]

/-- Make folders for the names that lead nowhere yet, and tell the location of the last one. What
was made before a fault stays. -/
def makeFoldersFrom (workspace : Workspace) (location : Location) :
    List Text → Except FileFault Location × Workspace
  | [] => (.ok location, workspace)
  | name :: rest =>
    match workspace.step location name with
    | .ok (next, .folder) => makeFoldersFrom workspace next rest
    | .ok _ => (.error (if rest.isEmpty then .occupied else .notFolder), workspace)
    | .error .absent =>
      makeFoldersFrom (workspace.place (location ++ [name]) .folder) (location ++ [name]) rest
    | .error fault => (.error fault, workspace)

/-- Make the folder at the path and the folders above it, where they are missing. -/
def makeFolders (workspace : Workspace) (path : Path) : Except FileFault Location × Workspace :=
  match path.fault? with
  | some fault => (.error fault, workspace)
  | none => workspace.makeFoldersFrom (workspace.origin path) path.names

/-- Write a file at the path, in place of the one that is there; the folder must exist. -/
def writeBytes (workspace : Workspace) (path : Path) (bytes : List UInt8) :
    Except FileFault Unit × Workspace :=
  match workspace.find path with
  | .ok (location, .file _) => (.ok (), workspace.place location (.file bytes))
  | .ok (_, .sink) => (.ok (), workspace)
  | .ok (_, .folder) => (.error .isFolder, workspace)
  | .error .absent =>
    match workspace.find path.parent with
    | .ok (location, .folder) =>
      (.ok (), workspace.place (location ++ [path.name]) (.file bytes))
    | .ok _ => (.error .notFolder, workspace)
    | .error fault => (.error fault, workspace)
  | .error fault => (.error fault, workspace)

/-- Take away what is at the path, unless it is a folder. -/
def remove (workspace : Workspace) (path : Path) : Except FileFault Unit × Workspace :=
  match workspace.find path with
  | .ok (_, .folder) => (.error .isFolder, workspace)
  | .ok (location, _) =>
    (.ok (), { workspace with nodes := workspace.nodes.filter fun entry => entry.1 ≠ location })
  | .error fault => (.error fault, workspace)

end Workspace

end RouteCatalog
