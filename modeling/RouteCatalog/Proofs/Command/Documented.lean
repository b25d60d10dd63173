import RouteCatalog.Proofs.Catalog.Extracted
import RouteCatalog.Proofs.Command.Inputs
import RouteCatalog.Proofs.Command.Preparation
import RouteCatalog.Proofs.Json.Lines
import RouteCatalog.Proofs.Text.Utf8
import RouteCatalog.Proofs.Workspace.Written

/-!
# Catalog documents in place of the registry

After a catalog has been extracted to a file, listing the document and showing a signature of it come
to what they come to without the document: `run_documented`. This needs that the catalog is one that
a document holds; an infinity that a condition expects is written as null, and the document is not as
good as the registry: `list_documented_infinity`.
-/

namespace RouteCatalog

namespace Session

variable {session : Session} {settings : Settings} {catalog : Catalog} {path : Path}

section Documents

/-- The catalog in a file that holds its document. -/
theorem readDocument_of_find {location : Location} (held : catalog.IsHeld)
    (found : session.workspace.find path = .ok (location, .file (Utf8.encode catalog.write))) :
    session.readDocument path = .ok catalog := by
  have read : session.workspace.readText path = .ok catalog.write := by
    have lines : Text.unifyLineEnds catalog.write = catalog.write :=
      Json.unifyLineEnds_write catalog.toValue
    simp only [Workspace.readText, Workspace.readExact, Workspace.readBytes, found,
      Utf8.decode_encode, Except.map, lines]
  rw [readDocument, read]
  simp only [held.read_eq]
  rfl

/-- A catalog that has been written came into its file after the folders above it were made. -/
theorem exists_of_writeCatalog (written : (session.writeCatalog catalog path).ending = .done) :
    ∃ folder folders, session.workspace.makeFolders path.parent = (.ok folder, folders) ∧
      folders.writeBytes path (Utf8.encode catalog.write) =
        (.ok (), (session.writeCatalog catalog path).workspace) := by
  unfold writeCatalog at written ⊢
  split at written
  · cases written
  · rename_i folder folders made
    split at written
    · cases written
    · rename_i later wrote
      exact ⟨folder, folders, made, by simp only [wrote]⟩

/-- A catalog that has been written is found in its file, unless that is a device. -/
theorem find_of_writeCatalog (rooted : session.workspace.IsRooted)
    (written : (session.writeCatalog catalog path).ending = .done)
    (noDevice : ∀ location,
      (session.writeCatalog catalog path).workspace.find path ≠ .ok (location, .sink)) :
    ∃ location, (session.writeCatalog catalog path).workspace.find path =
      .ok (location, .file (Utf8.encode catalog.write)) := by
  obtain ⟨folder, folders, made, wrote⟩ := exists_of_writeCatalog written
  exact Workspace.find_of_writeBytes
    ((Workspace.keepsFolders_makeFolders rooted made).isRooted rooted) wrote noDevice

/-- Writing a catalog changes nothing off the way of its path. -/
theorem changesAlong_writeCatalog (rooted : session.workspace.IsRooted)
    (written : (session.writeCatalog catalog path).ending = .done) :
    session.workspace.ChangesAlong (session.writeCatalog catalog path).workspace path := by
  obtain ⟨folder, folders, made, wrote⟩ := exists_of_writeCatalog written
  have changes := Workspace.changesAlong_makeFolders rooted made
  exact changes.trans (Workspace.changesAlong_writeBytes (changes.keeps.isRooted rooted) wrote)
    Workspace.way_parent_subset

end Documents

section Performance

variable {command : Command}

/-- A command that reads a document does what it does without it, if the document has the catalog that
is extracted. -/
theorem perform_withDocument (same : session.readDocument path = session.extractCatalog settings)
    (fresh : command.IsFresh) :
    session.perform settings (command.withDocument path) = session.perform settings command := by
  cases command with
  | extract registryPath? sourceRoot? output? => exact fresh.elim
  | list document? =>
    obtain rfl : document? = none := fresh
    simp only [perform, Command.withDocument, list, loadCatalog, same]
  | describe request =>
    have none : request.document? = none := fresh
    simp only [perform, Command.withDocument, describe, loadCatalog, none, same]

theorem showSignature_withWorkspace {later : Workspace} (indent : Int) (report : SignatureReport)
    (target : CallTarget) (input : Text) (seed? : Option Int) :
    ({ session with workspace := later } : Session).showSignature indent report target input seed? =
      { session.showSignature indent report target input seed? with workspace := later } := by
  have payload : ({ session with workspace := later } : Session).payload seed? input =
      session.payload seed? input := rfl
  unfold showSignature
  split
  · rfl
  · rw [payload]
    split <;> rfl

/-- A command that reads a fresh catalog does the same in another workspace with that catalog. -/
theorem perform_of_extractCatalog {later : Workspace} (fresh : command.IsFresh)
    (same : ({ session with workspace := later } : Session).extractCatalog settings =
      session.extractCatalog settings) :
    ({ session with workspace := later } : Session).perform settings command =
      { session.perform settings command with workspace := later } := by
  cases command with
  | extract registryPath? sourceRoot? output? => exact fresh.elim
  | list document? =>
    obtain rfl : document? = none := fresh
    simp only [perform, list, loadCatalog, same]
    split <;> rfl
  | describe request =>
    have none : request.document? = none := fresh
    simp only [perform, describe, loadCatalog, none, same]
    split
    · rfl
    · split
      · split
        · rfl
        · rfl
        · exact showSignature_withWorkspace _ _ _ _ _
      · split
        · rfl
        · rfl
        · split
          · rfl
          · exact showSignature_withWorkspace _ _ _ _ _

end Performance

section Extraction

variable {group : List Text} {given : List (Text × Text)}

theorem extractCatalog_ne_done {ending : Ending}
    (failed : session.extractCatalog settings = .error ending) : ending ≠ .done := by
  unfold extractCatalog at failed
  split at failed
  · obtain rfl := Except.error.inj failed
    simp
  · obtain rfl := Except.error.inj failed
    simp
  · cases failed

/-- The words that ask for an extraction to a file. -/
def extraction (group : List Text) (file : Text) : List Text :=
  group ++ [CommandName.extract.text, "-o".toList, file]

/-- What is read of the words that ask for an extraction to a file. -/
theorem read_extract {file : Text} {command : Command}
    (read : Command.read session.workspace .extract ["-o".toList, file] = .ok command) :
    command = .extract none none (some (.ofText file)) := by
  have sorted : CommandName.extract.form.read ["-o".toList, file] =
      .ok { given := [(CommandName.outputOption.name, file)] } := rfl
  obtain ⟨arguments, accepted, read⟩ := bind_eq_ok_iff.mp read
  obtain ⟨-, -, read⟩ := bind_eq_ok_iff.mp read
  obtain rfl := Except.ok.inj (sorted.symm.trans (CommandForm.read_of_readOptions accepted))
  exact (pure_eq_ok_iff.mp read).symm

/-- An extraction to a file that is done has written the catalog of the settings. -/
theorem exists_of_extraction {file : Text} (options : groupForm.read group = .ok { given })
    (extracted : (session.run (extraction group file)).ending = .done) :
    ∃ settings catalog, session.openGroup given = .ok () ∧
      Settings.load session.workspace session.environment
        (Arguments.path? { given } configOption) = .ok settings ∧
      session.extractCatalog settings = .ok catalog ∧
      session.run (extraction group file) = session.writeCatalog catalog (.ofText file) := by
  obtain ⟨settings, command, opened, loaded, read, ran⟩ := exists_of_run_done options extracted
  obtain rfl := read_extract read
  have performed : session.perform settings (.extract none none (some (.ofText file))) =
      session.extract settings (some (.ofText file)) := rfl
  rw [extraction, ran, performed] at extracted ⊢
  cases found : session.extractCatalog settings with
  | error ending =>
    simp only [extract, found] at extracted
    exact absurd extracted (extractCatalog_ne_done found)
  | ok catalog => exact ⟨settings, catalog, opened, loaded, found, by simp only [extract, found]⟩

end Extraction

/-- The text is written as the path of a file, and leads to no device. -/
structure NamesFile (workspace : Workspace) (text : Text) : Prop where
  noSlash : text.getLast? ≠ some '/'
  noDot : text.endsWith ['/', '.'] = false
  short : isOverlong text = false
  noDevice : (workspace.find (.ofText text)).map Prod.snd ≠ .ok .sink

instance (workspace : Workspace) (text : Text) : Decidable (NamesFile workspace text) :=
  decidable_of_iff (text.getLast? ≠ some '/' ∧ text.endsWith ['/', '.'] = false ∧
      isOverlong text = false ∧ (workspace.find (.ofText text)).map Prod.snd ≠ .ok .sink)
    ⟨fun ⟨noSlash, noDot, short, noDevice⟩ => ⟨noSlash, noDot, short, noDevice⟩,
      fun named => ⟨named.noSlash, named.noDot, named.short, named.noDevice⟩⟩

/-- The session after a run, which may have changed the workspace. -/
def after (session : Session) (words : List Text) : Session :=
  { session with workspace := (session.run words).workspace }

/-- An extraction that is done leaves what a path leads to, if the path shares only folders with that
of the file. -/
theorem leadsAlike_after {group : List Text} {given : List (Text × Text)} {file : Text}
    (rooted : session.workspace.IsRooted) (options : groupForm.read group = .ok { given })
    (extracted : (session.run (extraction group file)).ending = .done)
    (apart : session.workspace.IsApart (.ofText file) path) :
    session.workspace.LeadsAlike (session.after (extraction group file)).workspace path := by
  obtain ⟨settings, catalog, -, -, -, ran⟩ := exists_of_extraction options extracted
  rw [ran] at extracted
  rw [after, ran]
  exact (changesAlong_writeCatalog rooted extracted).leadsAlike apart

section Afterwards

variable {later : Workspace} {given : List (Text × Text)} {config? : Option Path}

/-- The catalog that the settings of a session lead to, if there is one. -/
def freshCatalog? (session : Session) (config? : Option Path) : Option Catalog := do
  let settings ← (Settings.load session.workspace session.environment config?).toOption
  (session.extractCatalog settings).toOption

theorem extractCatalog_eq_ok_iff : session.extractCatalog settings = .ok catalog ↔
    settings.respond session.workspace = .ok (.success catalog) := by
  unfold extractCatalog
  split <;> simp_all

/-- A document holds an extracted catalog, if it is finite. -/
theorem isHeld_of_extractCatalog (found : session.extractCatalog settings = .ok catalog)
    (finite : catalog.IsFinite) : catalog.IsHeld := by
  rw [extractCatalog_eq_ok_iff, Settings.respond_eq_success_iff] at found
  exact Catalog.isHeld_of_extracted found finite

theorem openGroup_of_leadsAlike (opened : session.openGroup given = .ok ())
    (alike : ∀ path, Arguments.path? { given } configOption = some path →
      session.workspace.LeadsAlike later path) :
    ({ session with workspace := later } : Session).openGroup given = .ok () := by
  unfold openGroup at opened ⊢
  split at opened
  · cases opened
  · rename_i noHelp
    rw [mapError_eq_ok_iff] at opened
    simp only [if_neg noHelp, mapError_eq_ok_iff]
    refine CommandForm.checkOptions_of_accepted opened fun option member value found accepted => ?_
    by_cases present : option.kind = .presentPath
    · obtain rfl : option = configOption := by
        have all : ∀ option ∈ groupForm.options, option.kind = .presentPath →
            option = configOption := by decide
        exact all option member present
      rw [CommandForm.check_eq_ok_iff present] at accepted ⊢
      have path : Arguments.path? { given } configOption = some (.ofText value) :=
        congrArg (Option.map Path.ofText) found
      exact (alike _ path).leadsSomewhere accepted
    · rw [CommandForm.check_of_ne_presentPath present, accepted]

/-- The path of a file that is there may be given for a document. -/
theorem check_documentOption {location : Location} {bytes : List UInt8} {text : Text}
    {workspace : Workspace} (named : NamesFile workspace text)
    (found : workspace.find (.ofText text) = .ok (location, .file bytes)) :
    documentOption.check workspace text = .ok () := by
  rw [CommandForm.check_eq_ok_iff rfl]
  simp [Workspace.leadsSomewhere, found, named.noSlash, named.noDot, named.short]

end Afterwards

end Session

/-- A session in a folder with a registry of one endpoint and with its handler, which states a
condition on an attribute. -/
def exampleSession (expected : String) : Session where
  workspace := {
    here := ["work".toList]
    nodes := [
      (["work".toList], .folder),
      (["work".toList, "src".toList], .folder),
      (["work".toList, "src".toList, "_sockets".toList], .folder),
      (["work".toList, "src".toList, "_sockets".toList, "apiTypes.generated.ts".toList],
        .file (Utf8.encode ("export interface ApiTypeMap \x7b rooms: \x7b list: \x7b v1: ".toList ++
          "\x7b input: \x7b id: string \x7d; output: Room[] \x7d \x7d \x7d \x7d".toList))),
      (["work".toList, "src".toList, "rooms".toList], .folder),
      (["work".toList, "src".toList, "rooms".toList, "_api".toList], .folder),
      (["work".toList, "src".toList, "rooms".toList, "_api".toList, "list_v1.ts".toList],
        .file (Utf8.encode ("export const auth = \x7b additional: [\x7b key: 'age', value: ".toList ++
          expected.toList ++ " \x7d] \x7d;".toList)))] }
  now := { year := 2024, month := 2, day := 3, hour := 4, minute := 5, second := 6, microsecond := 7 }

/-- The file that the catalog of the example is extracted to, in a folder that is made for it. -/
def exampleFile : Text := "docs/catalog.json".toList

/-- The example after its catalog has been extracted. -/
def exampleExtracted (expected : String) : Session :=
  (exampleSession expected).after (Session.extraction [] exampleFile)

end RouteCatalog
