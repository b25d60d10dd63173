import Mathlib.Control.Monad.Basic
import RouteCatalog.Command.Run
import RouteCatalog.Proofs.Fallible
import RouteCatalog.Proofs.Workspace.Alike

/-!
# What settings and catalogs are read from

The settings and the catalog that they lead to are read from a few files: `Session.inputs`. Whatever
else changes in the workspace, they stay as they are if the paths of these files lead to what they led
to before, or still lead nowhere (`LeadsAlike`): `load_of_leadsAlike` and `respond_of_leadsAlike`.
-/

namespace RouteCatalog

namespace Workspace

variable {workspace later : Workspace} {path : Path}

/-- The paths that are looked at until one leads to a file. -/
def tried (workspace : Workspace) : List Path → List Path
  | [] => []
  | path :: rest =>
    match workspace.isFile path with
    | .ok false => path :: workspace.tried rest
    | _ => [path]

section Handlers

variable {paths : List Path}

theorem mem_tried_of_firstFile? {path : Path} (found : firstFile? workspace paths = .ok (some path)) :
    path ∈ workspace.tried paths := by
  fun_induction firstFile? workspace paths with
  | case1 => cases found
  | case2 first rest isFile =>
    obtain rfl := Option.some.inj (Except.ok.inj found)
    simp [tried, isFile]
  | case3 first rest noFile inductionHypothesis =>
    simp [tried, noFile, inductionHypothesis found]
  | case4 first rest fault failed => cases found

theorem firstFile?_of_leadsAlike
    (alike : ∀ path ∈ workspace.tried paths, workspace.LeadsAlike later path) :
    firstFile? later paths = firstFile? workspace paths := by
  induction paths with
  | nil => rfl
  | cons first rest inductionHypothesis =>
    have here : workspace.LeadsAlike later first := alike first (by unfold tried; split <;> simp)
    rw [firstFile?, firstFile?, here.isFile]
    split
    · rfl
    · rename_i noFile
      exact inductionHypothesis fun path member => alike path (by simp [tried, noFile, member])
    · rfl

/-- What a handler says is the same where its path leads to the same. -/
theorem readHandlerMeta_of_leadsAlike {path? : Option Path}
    (alike : ∀ path, path? = some path → workspace.LeadsAlike later path) :
    readHandlerMeta later path? = readHandlerMeta workspace path? := by
  cases path? with
  | none => rfl
  | some path =>
    have here := alike path rfl
    unfold readHandlerMeta
    simp only [here.isFile]
    cases isFile : workspace.isFile path with
    | error fault => rfl
    | ok present =>
      cases present with
      | false => rfl
      | true => simp only [here.readText_of_isFile isFile]

end Handlers

end Workspace

open Workspace

namespace Settings

/-- The suffixes of the handlers. -/
def suffixes (settings : Settings) : List Text :=
  if settings.handlerExtensions.isEmpty then defaultExtensions else settings.handlerExtensions

/-- The paths at which the handlers of registry source are looked for. -/
def handlerPaths (settings : Settings) (workspace : Workspace) (source : Text) : List Path :=
  (signaturesOf endpointFields (interfaceBody "ApiTypeMap".toList (stripComments source))).flatMap
    fun block => workspace.tried (handlerCandidates settings.sourceRoot block.page block.name
      block.version settings.suffixes)

/-- The paths that a catalog is read from: that of the registry and those of the handlers. -/
def inputs (settings : Settings) (workspace : Workspace) : List Path :=
  settings.registryPath ::
    match workspace.readText settings.registryPath with
    | .ok source => settings.handlerPaths workspace source
    | .error _ => []

/-- What the handler of a signature says. -/
def handlerOf (settings : Settings) (workspace : Workspace) (block : SignatureBlock) :
    Except FileFault HandlerMeta := do
  let path? ← findHandler workspace settings.sourceRoot block.page block.name block.version
    settings.suffixes
  readHandlerMeta workspace path?

variable {settings : Settings} {workspace later : Workspace} {catalog : Catalog}

/-- Settings lead to a catalog exactly if it is that of the text in a registry file. -/
theorem catalog_eq_ok_iff : settings.catalog workspace = .ok catalog ↔
    workspace.isFile settings.registryPath = .ok true ∧
      ∃ source, workspace.readText settings.registryPath = .ok source ∧
        catalogOfSource (settings.handlerOf workspace) source = .ok catalog := by
  have handlers : (fun block => do
      let path? ← findHandler workspace settings.sourceRoot block.page block.name block.version
        (if settings.handlerExtensions.isEmpty then defaultExtensions
          else settings.handlerExtensions)
      readHandlerMeta workspace path?) = settings.handlerOf workspace := rfl
  simp only [Settings.catalog, extractCatalog, handlers]
  cases workspace.isFile settings.registryPath with
  | error fault => simp [throw, throwThe, MonadExceptOf.throw]
  | ok isFile =>
    cases isFile with
    | false => simp [throw, throwThe, MonadExceptOf.throw]
    | true =>
      cases workspace.readText settings.registryPath with
      | error fault => cases fault <;> simp [throw, throwThe, MonadExceptOf.throw]
      | ok source => simp [mapError_eq_ok_iff]

theorem respond_eq_success_iff : settings.respond workspace = .ok (.success catalog) ↔
    settings.catalog workspace = .ok catalog := by
  unfold respond
  split <;> simp_all

/-- What the handlers of registry source say is the same where their paths lead to the same. -/
theorem handlerOf_of_leadsAlike {source : Text}
    (alike : ∀ path ∈ settings.handlerPaths workspace source, workspace.LeadsAlike later path)
    {block : SignatureBlock} (member : block ∈ signaturesOf endpointFields
      (interfaceBody "ApiTypeMap".toList (stripComments source))) :
    settings.handlerOf later block = settings.handlerOf workspace block := by
  have tried : ∀ path ∈ workspace.tried (handlerCandidates settings.sourceRoot block.page block.name
      block.version settings.suffixes), workspace.LeadsAlike later path :=
    fun path inTried => alike path (List.mem_flatMap.mpr ⟨block, member, inTried⟩)
  rw [handlerOf, handlerOf, findHandler, findHandler, firstFile?_of_leadsAlike tried]
  cases found : firstFile? workspace (handlerCandidates settings.sourceRoot block.page block.name
      block.version settings.suffixes) with
  | error fault => rfl
  | ok path? =>
    refine readHandlerMeta_of_leadsAlike fun path same => tried path ?_
    exact mem_tried_of_firstFile? (same ▸ found)

/-- The catalog that settings lead to is the same where the paths it is read from lead to the same. -/
theorem respond_of_leadsAlike (responded : settings.respond workspace = .ok (.success catalog))
    (alike : ∀ path ∈ settings.inputs workspace, workspace.LeadsAlike later path) :
    settings.respond later = .ok (.success catalog) := by
  rw [respond_eq_success_iff, catalog_eq_ok_iff] at responded ⊢
  obtain ⟨isFile, source, read, extracted⟩ := responded
  have registry := alike settings.registryPath List.mem_cons_self
  have handlers : ∀ path ∈ settings.handlerPaths workspace source,
      workspace.LeadsAlike later path := fun path member =>
    alike path (List.mem_cons_of_mem _ (by rw [read]; exact member))
  refine ⟨by rw [registry.isFile, isFile], source, registry.readText read, ?_⟩
  rw [← extracted, catalogOfSource, catalogOfSource]
  simp only
  rw [mapM_congr_of_mem fun block member => by
    rw [handlerOf_of_leadsAlike handlers member]]

variable {environment : Environment} {path? : Option Path}

/-- The entries of a configuration file are the same where its path leads to the same. -/
theorem readEntries_of_leadsAlike {path : Path} {entries : List (Text × Yaml.Datum)}
    (read : readEntries workspace path = .ok entries) (alike : workspace.LeadsAlike later path) :
    readEntries later path = .ok entries := by
  have pairs : readPairs later path = readPairs workspace path := by
    obtain ⟨pairs, pairsRead, -⟩ := bind_eq_ok_iff.mp read
    rw [readPairs] at pairsRead
    cases text : workspace.readText path with
    | error fault => simp [text] at pairsRead
    | ok characters => rw [readPairs, readPairs, text, alike.readText text]
  rw [← read, readEntries, readEntries, pairs]

theorem chooseFile_of_leadsAlike (alike : workspace.LeadsAlike later (path?.getD settingsFile)) :
    chooseFile later path? = chooseFile workspace path? := by
  cases path? with
  | some path => rfl
  | none =>
    have present : later.isPresent settingsFile = workspace.isPresent settingsFile :=
      alike.isPresent
    rw [chooseFile, chooseFile, present]

theorem eq_of_chooseFile {path : Path} (chosen : chooseFile workspace path? = some path) :
    path = path?.getD settingsFile := by
  cases path? with
  | some given => exact (Option.some.inj chosen).symm
  | none =>
    rw [chooseFile] at chosen
    split at chosen
    · exact (Option.some.inj chosen).symm
    · cases chosen

/-- Settings are the same where the path of their file leads to the same. -/
theorem load_of_leadsAlike (loaded : load workspace environment path? = .ok settings)
    (alike : workspace.LeadsAlike later (path?.getD settingsFile)) :
    load later environment path? = .ok settings := by
  rw [← loaded, load, load, chooseFile_of_leadsAlike alike]
  cases chosen : chooseFile workspace path? with
  | none => rfl
  | some path =>
    rw [load, chosen] at loaded
    obtain ⟨entries, read, -⟩ := bind_eq_ok_iff.mp loaded
    obtain rfl := eq_of_chooseFile chosen
    simp only [read, readEntries_of_leadsAlike read alike]

end Settings

/-- The paths that a fresh catalog comes from: those of the configuration file, of the registry and of
the handlers. -/
def Session.inputs (session : Session) (config? : Option Path) : List Path :=
  config?.getD settingsFile ::
    match Settings.load session.workspace session.environment config? with
    | .ok settings => settings.inputs session.workspace
    | .error _ => []

end RouteCatalog
