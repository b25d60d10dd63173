import RouteCatalog.Command.Run
import Std.Time.DateTime

/-!
# The program

Takes a picture of the files that a command may look at, answers the command line and writes what has
changed. Hidden folders and folders of installed packages are not in the picture.
-/

namespace RouteCatalog

/-- The name of a location for the system. -/
def Location.fileName (location : Location) : String :=
  String.ofList ('/' :: Text.join ['/'] location)

/-- Is a folder with the name passed over? -/
def isPassedOver (name : String) : Bool :=
  name.startsWith "." || name == "node_modules"

/-- What is found at a location, and below it. What cannot be read is passed over. -/
partial def readNodes (location : Location) : IO (List (Location × Node)) := do
  try
    let path ← IO.FS.realPath location.fileName
    if ← path.isDir then
      let entries := (← path.readDir).toList.filter fun entry => !isPassedOver entry.fileName
      let inside ← entries.mapM fun entry => readNodes (location ++ [entry.fileName.toList])
      return (location, .folder) :: inside.flatten
    else if (← path.metadata).type == .file then
      return [(location, .file (← IO.FS.readBinFile path).toList)]
    else return [(location, .sink)]
  catch _ => return []

/-- The workspace with what is found at a path, unless it is known already. -/
def Workspace.withPath (workspace : Workspace) (path : Path) : IO Workspace := do
  let location := workspace.origin path ++ path.names
  if (workspace.node? location).isSome then return workspace
  else
    let found ← readNodes location
    let above := (List.range location.length).map fun length => location.take length
    let missing := above.filter fun folder => (workspace.node? folder).isNone && !found.isEmpty
    let folders := missing.map fun folder => (folder, Node.folder)
    return { workspace with nodes := workspace.nodes ++ folders ++ found }

/-- The present moment. -/
def presentInstant : IO Instant := do
  let nanoseconds := (← Std.Time.Timestamp.now).toNanosecondsSinceUnixEpoch
  let now := Std.Time.PlainDateTime.ofWallTime (Std.Time.WallTime.ofNanoseconds nanoseconds)
  return {
    year := now.year.toInt.toNat
    month := now.month.toNat
    day := now.day.toNat
    hour := now.hour.toNat
    minute := now.minute.toNat
    second := now.second.toNat
    microsecond := now.nanosecond.toNat / 1000 }

/-- The part of the environment that the settings look at. -/
def readEnvironment : IO Environment := do
  let mut environment : Environment := []
  for name in [registryVariable, sourceRootVariable] do
    if let some value ← IO.getEnv (String.ofList name) then
      environment := environment ++ [(name, value.toList)]
  return environment

/-- Write what has changed. -/
def writeChanges (changes : List (Location × Node)) : IO Unit := do
  for (location, node) in changes do
    match node with
    | .folder => IO.FS.createDirAll location.fileName
    | .file bytes => IO.FS.writeBinFile location.fileName ⟨bytes.toArray⟩
    | .sink => pure ()

/-- The paths that a word of the command line may hold: the word itself, or what follows an equals
sign. -/
def pathsIn (word : Text) : List Path :=
  let value := (Text.breakAt? ['='] word).map Prod.snd
  (word :: value.toList).map Path.ofText

/-- What a run of the command line starts from. -/
def openSession (words : List Text) : IO Session := do
  let here := (Path.ofText (← IO.currentDir).toString.toList).names
  let workspace ← ({ here, nodes := [] } : Workspace).withPath {}
  let workspace ← (words.flatMap pathsIn).foldlM Workspace.withPath workspace
  let session : Session :=
    { workspace
      environment := ← readEnvironment
      now := ← presentInstant
      seed := ← IO.rand 0 0x80000000 }
  match session.prepare words with
  | .error _ => return session
  | .ok (settings, _) =>
    let paths := [settings.registryPath, settings.sourceRoot]
    return { session with workspace := ← paths.foldlM Workspace.withPath session.workspace }

/-- What is said of a run that is broken off. -/
def Ending.breakNote : Ending → String
  | brokenOff (.file _) => "A file cannot be read or written.\n"
  | brokenOff (.settings _) => "The configuration file holds a value that cannot be used.\n"
  | brokenOff (.document _) => "The catalog document is not of the right form.\n"
  | brokenOff (.layout _) => "The indent is out of range.\n"
  | brokenOff .numberTooLong => "A number is too long.\n"
  | done | helped _ | failed _ _ | misused _ _ => ""

end RouteCatalog

open RouteCatalog in
/-- Answer the command line. -/
def main (words : List String) : IO UInt32 := do
  let words := words.map String.toList
  let session ← openSession words
  let outcome := session.run words
  writeChanges (outcome.workspace.changesSince session.workspace)
  (← IO.getStdout).putStr (String.ofList outcome.output)
  (← IO.getStderr).putStr (String.ofList outcome.ending.errorOutput ++ outcome.ending.breakNote)
  return outcome.ending.status.toUInt32
