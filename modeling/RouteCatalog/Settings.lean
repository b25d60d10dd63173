import RouteCatalog.Lenient
import RouteCatalog.Registry
import RouteCatalog.Text.Quoted
import RouteCatalog.Yaml.Document

/-!
# Settings

Where the registry and the handlers are, and how a catalog is shown. Settings have defaults, which
a configuration file overrides, and that in turn the environment. Paths in the file are relative to
the folder of the file.
-/

namespace RouteCatalog

/-- The settings of the explorer. -/
structure Settings where
  registryPath : Path := .ofText "src/_sockets/apiTypes.generated.ts".toList
  sourceRoot : Path := .ofText "src".toList
  handlerExtensions : List Text := defaultExtensions
  /-- Shown for an endpoint that sets no limit. -/
  defaultRateLimit : Int := 60
  indent : Int := 2
  deriving DecidableEq, Repr

/-- The configuration file that is read if there is one and no other is named. -/
def settingsFile : Path :=
  .ofText "docs-explorer.yaml".toList

/-- Names of the environment and their values. -/
abbrev Environment := List (Text × Text)

/-- The value of a name, unless it is empty. -/
def Environment.setting? (environment : Environment) (name : Text) : Option Text :=
  (firstOf? environment name).filter (· ≠ [])

/-- Why a name of the environment cannot be given a value. -/
inductive EnvironmentFault where
  /-- The name is empty. -/
  | nameless
  /-- The name holds an equals sign, or the name or the value a NUL. -/
  | badCharacter
  deriving DecidableEq, Repr

/-- Give a name a value. -/
def Environment.assign (environment : Environment) (name value : Text) :
    Except EnvironmentFault Environment :=
  if name.contains '\x00' ∨ value.contains '\x00' ∨ name.contains '=' then .error .badCharacter
  else if name.isEmpty then .error .nameless
  else .ok (put name value environment)

/-- A name has the value that it was given last, unless that is empty. -/
theorem Environment.setting?_of_assign {environment assigned : Environment} {name value : Text}
    (accepted : environment.assign name value = .ok assigned) (nonempty : value ≠ []) :
    assigned.setting? name = some value := by
  unfold Environment.assign at accepted
  split at accepted
  · cases accepted
  · split at accepted
    · cases accepted
    · cases accepted
      simp [Environment.setting?, firstOf?_put, nonempty]

/-- The environment's name for the path of the registry. -/
def registryVariable : Text := "API_DOCS_REGISTRY".toList

/-- The environment's name for the folder of the handlers. -/
def sourceRootVariable : Text := "API_DOCS_SOURCE_ROOT".toList

/-- The key of the path of the registry. -/
def registryKey : Text := "registry_path".toList

/-- The key of the folder of the handlers. -/
def sourceRootKey : Text := "source_root".toList

/-- Why there are no settings. -/
inductive SettingsFault where
  /-- The configuration file cannot be read. -/
  | unreadableFile (path : Path) (fault : FileFault)
  /-- The configuration file breaks the rules of its format. -/
  | malformedFile (path : Path)
  /-- A scalar of the configuration file does not denote what it should. -/
  | badScalar (fault : Yaml.Fault)
  /-- The configuration file holds something else than a mapping. -/
  | notMapping (path : Path)
  /-- A path or a key of the configuration file is no text. -/
  | notText
  /-- The settings are not of the right kinds. -/
  | invalid (issues : List Issue)
  deriving DecidableEq, Repr

/-- The number and the words of a fault that the system reports for a path. -/
def FileFault.report? (path : Path) (fault : FileFault) : Option Text :=
  let worded (number words : String) : Option Text :=
    some (['['] ++ "Errno ".toList ++ number.toList ++ "] ".toList ++ words.toList ++
      ": ".toList ++ path.text.quoted)
  match fault with
  | absent => worded "2" "No such file or directory"
  | occupied => worded "17" "File exists"
  | notFolder => worded "20" "Not a directory"
  | isFolder => worded "21" "Is a directory"
  | nameTooLong => worded "36" "File name too long"
  | nulInPath => none
  | malformed _ => none

/-- The fault in words, if it is one that is explained to the user. Issues and the details of a
malformed file are left out. -/
def SettingsFault.message? : SettingsFault → Option Text
  | unreadableFile path fault =>
    (fault.report? path).map fun report =>
      "Cannot read config file ".toList ++ path.text ++ ": ".toList ++ report
  | malformedFile path => some ("YAMLError in ".toList ++ path.text)
  | notMapping path =>
    some ("Config file ".toList ++ path.text ++ " must contain a mapping".toList)
  | invalid _ => some "Invalid configuration".toList
  | badScalar _ | notText => none

/-- Does the message of the fault leave details out? -/
def SettingsFault.isAbridged : SettingsFault → Bool
  | malformedFile _ | invalid _ => true
  | _ => false

namespace Settings

open Yaml (Atom Datum)

/-- Check a setting that is a path. -/
def checkPath : Datum → Checked Path
  | .text characters => .valid (.ofText characters)
  | _ => .fault .notPath

/-- The value that an atom is taken for where an integer should be. Bytes count as the text that they
encode. -/
def checkNumber : Atom → Checked Int
  | .bool flag => asInteger (.bool flag)
  | .int number => asInteger (.int number)
  | .float number => asInteger (.float number)
  | .text characters => asInteger (.text characters)
  | .bytes bytes =>
    match Utf8.decode bytes with
    | .ok characters => asInteger (.text characters)
    | .error _ => .fault .unreadableInteger
  | .null | .moment _ => .fault .notInteger

/-- Check a setting that is an integer. -/
def checkInteger : Datum → Checked Int
  | .atom value => checkNumber value
  | _ => .fault .notInteger

/-- Check a text in a list. Bytes count as the text that they encode. -/
def checkText : Datum → Checked Text
  | .text characters => .valid characters
  | .atom (.bytes bytes) =>
    match Utf8.decode bytes with
    | .ok characters => .valid characters
    | .error _ => .fault .undecodable
  | _ => .fault .notText

/-- Check a setting that is a list of texts. A set will do as well, its members in the order of the
file. -/
def checkTexts : Datum → Checked (List Text)
  | .list items | .set items => Checked.items checkText items
  | _ => .fault .notList

/-- Check one setting, which has a default. -/
def checkSetting {α : Type} (entries : List (Text × Datum)) (name : Text) (default : α)
    (check : Datum → Checked α) : Checked α :=
  match lastOf? entries name with
  | some datum => (check datum).within (.key name)
  | none => .valid default

/-- Check settings with names. Names that no setting has are passed over. -/
def check (entries : List (Text × Datum)) : Checked Settings :=
  let defaults : Settings := {}
  Settings.mk <$> checkSetting entries registryKey defaults.registryPath checkPath
    <*> checkSetting entries sourceRootKey defaults.sourceRoot checkPath
    <*> checkSetting entries "handler_extensions".toList defaults.handlerExtensions checkTexts
    <*> checkSetting entries "default_rate_limit".toList defaults.defaultRateLimit checkInteger
    <*> checkSetting entries "indent".toList defaults.indent checkInteger

/-- Without entries every setting has its default. -/
theorem check_nil : check [] = .valid {} :=
  rfl

/-- The entries with one of them, a path, taken relative to a folder. -/
def resolvePath (folder : Path) (name : Text) (entries : List (Text × Datum)) :
    Except SettingsFault (List (Text × Datum)) :=
  match lastOf? entries name with
  | none | some Datum.null => .ok entries
  | some (Datum.text path) => .ok (put name (.text (folder.child path).text) entries)
  | some _ => .error .notText

/-- The entries with one of them overridden, if there is something to override it with. -/
def override (name : Text) (value? : Option Text) (entries : List (Text × Datum)) :
    List (Text × Datum) :=
  match value? with
  | some value => put name (.text value) entries
  | none => entries

/-- How deep settings look into a configuration file: at the items of lists that are values of a
mapping. -/
def settingsDepth : Nat := 3

/-- What a configuration file says, which has to be a mapping or nothing. -/
def readPairs (workspace : Workspace) (path : Path) :
    Except SettingsFault (List (Datum × Datum)) :=
  match workspace.readText path with
  | .error fault => .error (.unreadableFile path fault)
  | .ok text =>
    match Yaml.read settingsDepth text with
    | .error .malformed => .error (.malformedFile path)
    | .error fault => .error (.badScalar fault)
    | .ok .null => .ok []
    | .ok (.mapping pairs) => .ok pairs
    | .ok _ => .error (.notMapping path)

/-- The entry of a pair whose key is a text. -/
def textEntry? : Datum × Datum → Option (Text × Datum)
  | (.text key, value) => some (key, value)
  | _ => none

/-- The entries of a configuration file, its paths taken relative to its folder. The paths are looked
at before the keys. -/
def readEntries (workspace : Workspace) (path : Path) :
    Except SettingsFault (List (Text × Datum)) := do
  let pairs ← readPairs workspace path
  let entries := collapse (pairs.filterMap textEntry?)
  let entries ← resolvePath path.parent registryKey entries
  let entries ← resolvePath path.parent sourceRootKey entries
  if (pairs.mapM textEntry?).isSome then return entries else throw .notText

/-- The configuration file to read, if there is one. -/
def chooseFile (workspace : Workspace) : (path? : Option Path) → Option Path
  | some path => some path
  | none =>
    match workspace.isPresent settingsFile with
    | .ok true => some settingsFile
    | _ => none

/-- The settings from a configuration file and the environment. -/
def load (workspace : Workspace) (environment : Environment) (path? : Option Path) :
    Except SettingsFault Settings := do
  let entries ←
    match chooseFile workspace path? with
    | some path => readEntries workspace path
    | none => pure []
  let entries := override registryKey (environment.setting? registryVariable) entries
  let entries := override sourceRootKey (environment.setting? sourceRootVariable) entries
  match check entries with
  | .valid settings => return settings
  | .faulty issues => throw (.invalid issues)

end Settings

/-- The answer to a request for the catalog. -/
inductive CatalogResponse where
  | success (catalog : Catalog)
  | failure (message : Text)
  deriving DecidableEq, Repr

namespace Settings

/-- The catalog that the settings lead to. -/
def catalog (settings : Settings) (workspace : Workspace) : Except RegistryFault Catalog :=
  extractCatalog workspace settings.registryPath (some settings.sourceRoot)
    settings.handlerExtensions

/-- The catalog that the settings lead to, or why there is none. A path that files cannot have is
not explained. -/
def respond (settings : Settings) (workspace : Workspace) : Except FileFault CatalogResponse :=
  match settings.catalog workspace with
  | .ok catalog => .ok (.success catalog)
  | .error (.badPath fault) => .error fault
  | .error (.notFound path) => .ok (.failure (RegistryFault.notFoundMessage path))
  | .error (.unreadable path malformed) =>
    .ok (.failure (RegistryFault.unreadableMessage path malformed))

end Settings

end RouteCatalog
