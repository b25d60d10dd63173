import RouteCatalog.Catalog.Reader
import RouteCatalog.Catalog.Writer
import RouteCatalog.Command
import RouteCatalog.Report
import RouteCatalog.Sample.Twister
import RouteCatalog.Sample.Value
import RouteCatalog.Text.Terminal

/-!
# Running commands

`Session.run` answers a command line: with what is printed, how the run ends and the files after it.
Options before the command and the name of the command are checked first; then the settings are
loaded, then the words after the name are read, and only then is anything printed or written.
-/

namespace RouteCatalog

/-- What a run starts from. -/
structure Session where
  workspace : Workspace
  environment : Environment := []
  now : Instant
  /-- Where example payloads start from, unless the command says it. -/
  seed : Int := 0

/-- What breaks a run off without an explanation. -/
inductive RunFault where
  | file (fault : FileFault)
  | settings (fault : SettingsFault)
  /-- A catalog document is not of the right form. -/
  | document (issues : List Issue)
  | layout (fault : LayoutFault)
  | numberTooLong
  deriving DecidableEq, Repr

/-- How a run ends. -/
inductive Ending where
  | done
  /-- Help was asked for. -/
  | helped (form : CommandForm)
  /-- The command cannot be done; a message that leaves details out is abridged. -/
  | failed (message : Text) (abridged : Bool)
  /-- The command line is wrong. -/
  | misused (form : CommandForm) (fault : UsageFault)
  | brokenOff (fault : RunFault)
  deriving DecidableEq, Repr

namespace Ending

/-- The exit status. -/
def status : Ending → Nat
  | done | helped _ => 0
  | failed _ _ | brokenOff _ => 1
  | misused _ _ => 2

/-- What is printed about the ending. An abridged message has no line end. -/
def errorOutput : Ending → Text
  | done | helped _ | brokenOff _ => []
  | failed message abridged =>
    Text.dropSequences ("Error: ".toList ++ message) ++ (if abridged then [] else ['\n'])
  | misused form fault =>
    let usage := if fault.showsForm then form.usage else []
    Text.dropSequences (usage ++ "Error: ".toList ++ fault.message) ++ ['\n']

/-- The ending for settings that cannot be had. -/
def ofSettingsFault (fault : SettingsFault) : Ending :=
  match fault.message? with
  | some message => failed message fault.isAbridged
  | none =>
    match fault with
    | .unreadableFile _ fileFault => brokenOff (.file fileFault)
    | _ => brokenOff (.settings fault)

/-- The ending for words that are no command. -/
def ofArgumentFault (form : CommandForm) : ArgumentFault → Ending
  | .misused fault => misused form fault
  | .badPath fault => brokenOff (.file fault)
  | .helpWanted => helped form

/-- What is printed because of the ending alone. -/
def paragraphs : Ending → List Text
  | helped form => form.help
  | _ => []

end Ending

/-- The result of a run. -/
structure Outcome where
  output : Text := []
  ending : Ending := .done
  workspace : Workspace
  deriving DecidableEq, Repr

/-- The output for paragraphs: each ends its line, and there are no terminal sequences. -/
def printed (paragraphs : List Text) : Text :=
  Text.dropSequences (paragraphs.flatMap fun paragraph => paragraph ++ ['\n'])

namespace Session

/-- The catalog in a document. -/
def readDocument (session : Session) (path : Path) : Except Ending Catalog :=
  match session.workspace.readText path with
  | .error fault => .error (.brokenOff (.file fault))
  | .ok document => (Catalog.read document).mapError fun issues => .brokenOff (.document issues)

/-- The catalog that the settings lead to. -/
def extractCatalog (session : Session) (settings : Settings) : Except Ending Catalog :=
  match settings.respond session.workspace with
  | .error fault => .error (.brokenOff (.file fault))
  | .ok (.failure message) => .error (.failed message false)
  | .ok (.success catalog) => .ok catalog

/-- The catalog in a document, or if there is none, the one that the settings lead to. -/
def loadCatalog (session : Session) (settings : Settings) (document? : Option Path) :
    Except Ending Catalog :=
  match document? with
  | some path => session.readDocument path
  | none => session.extractCatalog settings

/-- The outcome of a run that prints paragraphs and changes no files. -/
def outcome (session : Session) (paragraphs : List Text) (ending : Ending) : Outcome :=
  { output := printed paragraphs, ending, workspace := session.workspace }

/-- The outcome of a run that ends before anything else is printed. -/
def ended (session : Session) (ending : Ending) : Outcome :=
  session.outcome ending.paragraphs ending

/-- Write the document of a catalog to a file, in folders that are made if they are missing. -/
def writeCatalog (session : Session) (catalog : Catalog) (path : Path) : Outcome :=
  match session.workspace.makeFolders path.parent with
  | (.error fault, workspace) => { ending := .brokenOff (.file fault), workspace }
  | (.ok _, workspace) =>
    match workspace.writeBytes path (Utf8.encode catalog.write) with
    | (.error fault, workspace) => { ending := .brokenOff (.file fault), workspace }
    | (.ok (), workspace) =>
      { output := printed ["Extracted ".toList ++ natText catalog.count ++ " signatures to ".toList ++
          path.text]
        workspace }

/-- Extract the catalog and write it. -/
def extract (session : Session) (settings : Settings) (output? : Option Path) : Outcome :=
  match session.extractCatalog settings, output? with
  | .error ending, _ => session.ended ending
  | .ok catalog, none => session.outcome [catalog.write] .done
  | .ok catalog, some path => session.writeCatalog catalog path

/-- List a catalog. -/
def list (session : Session) (settings : Settings) (document? : Option Path) : Outcome :=
  match session.loadCatalog settings document? with
  | .error ending => session.ended ending
  | .ok catalog => session.outcome catalog.listing .done

/-- An example payload for an input shape. -/
def payload (session : Session) (seed? : Option Int) (input : Text) :
    Except NumberTooLong Value :=
  let sampling : Sampling Twister.source Value := sampleRecord session.now input
  (sampling.runOn { state := Twister.ofSeed (seed?.getD session.seed) }).1

/-- Show a signature: a report of it, then an example. The report is printed even if there is no
example, and its beginning even if its shapes cannot be laid out. -/
def showSignature (session : Session) (indent : Int) (report : SignatureReport)
    (target : CallTarget) (input : Text) (seed? : Option Int) : Outcome :=
  match indentFault? indent with
  | some fault => session.outcome report.opening (.brokenOff (.layout fault))
  | none =>
    let paragraphs := report.paragraphs indent
    match session.payload seed? input with
    | .error _ => session.outcome paragraphs (.brokenOff .numberTooLong)
    | .ok payload => session.outcome (paragraphs ++ target.exampleReport payload) .done

/-- Show the signature that is asked for. -/
def describe (session : Session) (settings : Settings) (request : ShowRequest) : Outcome :=
  let missing (kind : String) : Outcome :=
    let message := "No ".toList ++ kind.toList ++ ' ' :: request.page ++ '/' :: request.name ++
      " found.".toList
    session.ended (.failed message false)
  match session.loadCatalog settings request.document? with
  | .error ending => session.ended ending
  | .ok catalog =>
    if request.isBroadcast then
      match catalog.findBroadcast request.page request.name request.version? with
      | .error _ => session.ended (.brokenOff .numberTooLong)
      | .ok none => missing "sync event"
      | .ok (some broadcast) =>
        session.showSignature settings.indent broadcast.report broadcast.target
          broadcast.clientInput request.seed?
    else
      match catalog.findEndpoint request.page request.name request.version? with
      | .error _ => session.ended (.brokenOff .numberTooLong)
      | .ok none => missing "API"
      | .ok (some endpoint) =>
        match endpoint.report settings.defaultRateLimit with
        | .error _ => session.outcome endpoint.introduction (.brokenOff .numberTooLong)
        | .ok report =>
          session.showSignature settings.indent report endpoint.target endpoint.input request.seed?

/-- Do a command under settings. -/
def perform (session : Session) (settings : Settings) : Command → Outcome
  | .extract registryPath? sourceRoot? output? =>
    session.extract
      { settings with
        registryPath := registryPath?.getD settings.registryPath
        sourceRoot := sourceRoot?.getD settings.sourceRoot }
      output?
  | .list document? => session.list settings document?
  | .describe request => session.describe settings request

/-- Read options before the name of a command. -/
def readGroup (session : Session) (words : List Text) : Except Ending Arguments :=
  (groupForm.readOptions session.workspace words).mapError (.ofArgumentFault groupForm)

/-- The command with a name. A word that looks like an option is first read as one, so that a wrong
option is reported as such. -/
def findCommand (session : Session) (word : Text) (rest : List Text) :
    Except Ending CommandName := do
  match CommandName.ofText? word with
  | some name => return name
  | none =>
    if word.head? = some '-' then discard (session.readGroup (word :: rest))
    let similar := Text.suggestions word (CommandName.all.map CommandName.text)
    throw (.misused groupForm (.noSuchCommand word similar))

/-- The settings and the command of a command line. -/
def prepare (session : Session) (words : List Text) : Except Ending (Settings × Command) := do
  let group ← session.readGroup words
  match group.positional with
  | [] => throw (.misused groupForm .missingCommand)
  | word :: rest =>
    let name ← session.findCommand word rest
    let settings ← (Settings.load session.workspace session.environment
      (group.path? configOption)).mapError .ofSettingsFault
    let command ← (Command.read session.workspace name rest).mapError
      (.ofArgumentFault name.form)
    return (settings, command)

/-- Answer a command line. -/
def run (session : Session) (words : List Text) : Outcome :=
  match session.prepare words with
  | .error ending => session.ended ending
  | .ok (settings, command) => session.perform settings command

end Session

end RouteCatalog
