import RouteCatalog.Command.Arguments
import RouteCatalog.Number.Decimal
import RouteCatalog.Workspace

/-!
# Commands

The three commands on a catalog: extracting it, listing it and showing one signature. `Command.read`
makes a command of the words after its name. Options are checked in the order in which they were first
given, then the positional arguments; the first fault counts.
-/

namespace RouteCatalog

/-- Which signature is shown, and how. -/
structure ShowRequest where
  page : Text
  name : Text
  /-- Absent for the greatest version. -/
  version? : Option Text := none
  /-- Is the signature a broadcast? -/
  isBroadcast : Bool := false
  /-- Where the example payload starts from; absent if it may start anywhere. -/
  seed? : Option Int := none
  /-- A catalog document to read in place of the registry. -/
  document? : Option Path := none
  deriving DecidableEq, Repr

/-- A command. -/
inductive Command where
  /-- Write the catalog to a file or to the output. -/
  | extract (registryPath? sourceRoot? output? : Option Path)
  /-- List the signatures of the registry or of a catalog document. -/
  | list (document? : Option Path)
  | describe (request : ShowRequest)
  deriving DecidableEq, Repr

/-- The commands by name. -/
inductive CommandName where
  | extract
  | list
  | describe
  deriving DecidableEq, Repr

/-- The name of the program. -/
def programName : Text := "api-docs-explorer".toList

/-- The option for a catalog document. -/
def documentOption : CommandOption :=
  { name := "--docs".toList, kind := .presentPath }

/-- The option for a configuration file. -/
def configOption : CommandOption :=
  { name := "--config".toList, kind := .presentPath }

/-- The flag that asks for help. Every command has it. -/
def helpOption : CommandOption :=
  { name := "--help".toList, kind := .flag }

/-- What comes before the name of a command. -/
def groupForm : CommandForm where
  call := programName
  options := [
    configOption,
    { name := "--verbose".toList, letter? := some 'v', kind := .flag },
    helpOption]
  arguments := ["COMMAND".toList, "[ARGS]...".toList]
  isGroup := true

namespace CommandName

/-- The name as it is written. -/
def text : CommandName → Text
  | extract => "extract".toList
  | list => "list".toList
  | describe => "show".toList

/-- All commands. -/
def all : List CommandName :=
  [extract, list, describe]

/-- The command with a name. -/
def ofText? (word : Text) : Option CommandName :=
  all.find? (·.text = word)

/-- The option for the path of the registry. -/
def registryOption : CommandOption :=
  { name := "--registry".toList, kind := .path }

/-- The option for the folder of the handlers. -/
def sourceRootOption : CommandOption :=
  { name := "--source-root".toList, kind := .path }

/-- The option for the file to write. -/
def outputOption : CommandOption :=
  { name := "--output".toList, letter? := some 'o', kind := .path }

/-- The option for the version to show. -/
def versionOption : CommandOption :=
  { name := "--version".toList, kind := .text }

/-- The flag for broadcasts. -/
def broadcastOption : CommandOption :=
  { name := "--sync".toList, kind := .flag }

/-- The option for the seed of the example payload. -/
def seedOption : CommandOption :=
  { name := "--seed".toList, kind := .integer }

/-- What a command accepts. -/
def form (name : CommandName) : CommandForm :=
  let call := programName ++ ' ' :: name.text
  match name with
  | extract =>
    { call
      options := [registryOption, sourceRootOption, outputOption, helpOption]
      arguments := [] }
  | list => { call, options := [documentOption, helpOption], arguments := [] }
  | describe =>
    { call
      options := [versionOption, broadcastOption, seedOption, documentOption, helpOption]
      arguments := ["PAGE".toList, "NAME".toList] }

/-- Every command is found by its name. -/
theorem ofText?_text (name : CommandName) : ofText? name.text = some name := by
  cases name <;> decide

end CommandName

namespace CommandForm

/-- How the command is called, in one line. -/
def callLine (form : CommandForm) : Text :=
  "Usage: ".toList ++ Text.join [' '] (form.call :: "[OPTIONS]".toList :: form.arguments)

/-- How the command is called, and where there is help. -/
def usage (form : CommandForm) : Text :=
  form.callLine ++ "\nTry '".toList ++ form.call ++ " --help' for help.\n\n".toList

/-- The help of the command: how it is called, and its options. -/
def help (form : CommandForm) : List Text :=
  [form.callLine, [], "Options:".toList] ++
    form.options.map fun option => [' ', ' '] ++ option.name

end CommandForm

/-- Why words are no command. -/
inductive ArgumentFault where
  | misused (fault : UsageFault)
  /-- A path is not one that files can have. -/
  | badPath (fault : FileFault)
  /-- Help is asked for. -/
  | helpWanted
  deriving DecidableEq, Repr

/-- Check the value of an option. -/
def CommandOption.check (option : CommandOption) (workspace : Workspace) (value : Text) :
    Except ArgumentFault Unit :=
  match option.kind with
  | .flag | .text => .ok ()
  | .integer =>
    if (readInteger? value).isSome then .ok () else .error (.misused (.notInteger option.name value))
  | .path => if value.contains '\x00' then .error (.badPath .nulInPath) else .ok ()
  | .presentPath =>
    match workspace.leadsSomewhere value with
    | .ok true => .ok ()
    | .ok false => .error (.misused (.noSuchPath option.name value))
    | .error fault => .error (.badPath fault)

namespace CommandForm

/-- Check options in the order in which they were first given; of one option the last value
counts. -/
def checkOptions (form : CommandForm) (workspace : Workspace) (given : List (Text × Text)) :
    Except ArgumentFault Unit :=
  (collapse given).forM fun entry =>
    match form.options.find? (·.name = entry.1) with
    | some option => option.check workspace entry.2
    | none => .ok ()

/-- Sort the words of a command line and check the options, unless help is asked for. -/
def readOptions (form : CommandForm) (workspace : Workspace) (words : List Text) :
    Except ArgumentFault Arguments := do
  let arguments ← (form.read words).mapError .misused
  if arguments.has helpOption.name then throw .helpWanted
  form.checkOptions workspace arguments.given
  return arguments

/-- Check that there are as many positional arguments as there should be. -/
def checkCount (form : CommandForm) (positional : List Text) : Except ArgumentFault Unit :=
  match form.arguments.drop positional.length, positional.drop form.arguments.length with
  | missing :: _, _ => .error (.misused (.missingArgument missing))
  | [], [] => .ok ()
  | [], extra => .error (.misused (.extraArguments extra))

end CommandForm

/-- The path that an option gives. -/
def Arguments.path? (arguments : Arguments) (option : CommandOption) : Option Path :=
  (arguments.value? option.name).map Path.ofText

namespace Command

open CommandName

/-- The command with checked arguments. -/
def ofArguments (name : CommandName) (arguments : Arguments) : Command :=
  match name with
  | .extract =>
    .extract (arguments.path? registryOption) (arguments.path? sourceRootOption)
      (arguments.path? outputOption)
  | .list => .list (arguments.path? documentOption)
  | .describe =>
    .describe {
      page := arguments.positional.getD 0 []
      name := arguments.positional.getD 1 []
      version? := arguments.value? versionOption.name
      isBroadcast := arguments.has broadcastOption.name
      seed? := (arguments.value? seedOption.name).bind readInteger?
      document? := arguments.path? documentOption }

/-- Read the words after the name of a command. -/
def read (workspace : Workspace) (name : CommandName) (words : List Text) :
    Except ArgumentFault Command := do
  let arguments ← name.form.readOptions workspace words
  name.form.checkCount arguments.positional
  return ofArguments name arguments

end Command

end RouteCatalog
