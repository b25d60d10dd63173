import Mathlib.Control.Monad.Basic
import RouteCatalog.Proofs.Command.Preparation
import RouteCatalog.Proofs.Keyed

/-!
# Settings that cannot be had

Loading settings comes to settings, to a fault that is explained to the user, or to one that is not.
`settings_explained_iff` says what the configuration file has to be like for every fault to be explained:
its bytes are a text, its scalars denote what they promise, its keys are texts, and so are its paths.
A run without settings prints the explanation and nothing else.
-/

namespace RouteCatalog

section Files

variable {workspace : Workspace} {path : Path} {location : Location} {node : Node} {name : Text}
  {names : List Text} {fault : FileFault}

/-- A path is refused for a NUL exactly if there is one in it. -/
theorem Path.fault?_ne_nulInPath_iff :
    path.fault? ≠ some .nulInPath ↔ ∀ name ∈ path.names, '\x00' ∉ name := by
  unfold Path.fault?
  by_cases holdsNul : path.names.any (·.contains '\x00') = true
  · simp_all
  · rw [if_neg holdsNul]
    split <;> simp_all

/-- A path is refused for nothing else but a NUL and its length. -/
theorem Path.eq_or_eq_of_fault? (refused : path.fault? = some fault) :
    fault = .nulInPath ∨ fault = .nameTooLong := by
  unfold Path.fault? at refused
  split at refused
  · exact .inl (Option.some.inj refused).symm
  · split at refused
    · exact .inr (Option.some.inj refused).symm
    · cases refused

namespace Workspace

/-- A step from one location to the next has no fault but these. -/
theorem fault_of_step (failed : workspace.step location name = .error fault) :
    fault = .absent ∨ fault = .notFolder ∨ fault = .nameTooLong := by
  unfold step at failed
  split at failed
  · cases failed; simp
  · cases failed; simp
  · cases failed; simp
  · split at failed
    · cases failed
    · split at failed
      · cases failed; simp
      · split at failed <;> cases failed
        simp

theorem fault_of_walk (failed : workspace.walk location node names = .error fault) :
    fault = .absent ∨ fault = .notFolder ∨ fault = .nameTooLong := by
  induction names generalizing location node with
  | nil => cases failed
  | cons name rest inductionHypothesis =>
    rw [walk] at failed
    split at failed
    · exact inductionHypothesis failed
    · rename_i stepFault step
      obtain rfl := Except.error.inj failed
      exact fault_of_step step

/-- A fault of reading bytes has a number, but for a NUL in the path. -/
theorem report?_readBytes_iff : (∀ fault, workspace.readBytes path = .error fault →
    fault.report? path ≠ none) ↔ ∀ name ∈ path.names, '\x00' ∉ name := by
  rw [← Path.fault?_ne_nulInPath_iff]
  unfold readBytes find
  cases refused : path.fault? with
  | some fault =>
    obtain rfl | rfl := Path.eq_or_eq_of_fault? refused <;> simp [FileFault.report?]
  | none =>
    refine iff_of_true (fun fault failed => ?_) (by simp)
    split at failed
    · cases failed
    · cases failed
    · obtain rfl := Except.error.inj failed
      simp [FileFault.report?]
    · rename_i walkFault walked
      obtain rfl := Except.error.inj failed
      obtain rfl | rfl | rfl := fault_of_walk walked <;> simp [FileFault.report?]

/-- A fault of reading a text has a number, but for a NUL in the path and for bytes that are no
text. -/
theorem report?_readText_iff : (∀ fault, workspace.readText path = .error fault →
      fault.report? path ≠ none) ↔ (∀ name ∈ path.names, '\x00' ∉ name) ∧
        ∀ bytes, workspace.readBytes path = .ok bytes → ∃ text, Utf8.decode bytes = .ok text := by
  rw [← @report?_readBytes_iff workspace path, readText, readExact]
  cases workspace.readBytes path with
  | error fault => simp [Except.map]
  | ok bytes =>
    cases decoded : Utf8.decode bytes with
    | error malformed => simp [Except.map, decoded, FileFault.report?]
    | ok text => simp [Except.map, decoded]

end Workspace

end Files

/-- Is the result there, or a fault that is explained to the user? -/
def IsExplained {α : Type} (result : Except SettingsFault α) : Prop :=
  ∀ fault, result = .error fault → ∃ message, fault.message? = some message

section Steps

variable {α β : Type} {first : Except SettingsFault α} {second : α → Except SettingsFault β}

@[simp]
theorem isExplained_ok (made : α) : IsExplained (.ok made) := by
  rintro fault failed
  cases failed

@[simp]
theorem isExplained_error_iff {fault : SettingsFault} :
    IsExplained (.error fault : Except SettingsFault α) ↔ fault.message? ≠ none := by
  simp [IsExplained, Option.ne_none_iff_exists']

/-- Two steps are explained exactly if the first is, and the second after it. -/
theorem isExplained_bind_iff : IsExplained (first >>= second) ↔
    IsExplained first ∧ ∀ made, first = .ok made → IsExplained (second made) := by
  cases first <;> simp

end Steps

namespace Settings

open Yaml (Datum)

variable {workspace : Workspace} {environment : Environment} {folder path : Path} {name : Text}
  {entries resolved : List (Text × Datum)} {pairs : List (Datum × Datum)}

/-- A path may be left out, and otherwise is a text. -/
def IsPathValue (value? : Option Datum) : Prop :=
  value? = none ∨ value? = some .null ∨ ∃ path, value? = some (.text path)

/-- What a mapping has to be for its entries to be checked: its keys are texts, and so are its
paths. -/
structure IsRegular (pairs : List (Datum × Datum)) : Prop where
  keys : ∀ pair ∈ pairs, ∃ key, pair.1 = .text key
  registry : IsPathValue (lastOf? (pairs.filterMap textEntry?) registryKey)
  sourceRoot : IsPathValue (lastOf? (pairs.filterMap textEntry?) sourceRootKey)

/-- What a configuration file has to be for the user to be told what is wrong with it, if anything
is. -/
structure IsReportable (workspace : Workspace) (path : Path) : Prop where
  /-- There can be a file at the path. -/
  noNul : ∀ name ∈ path.names, '\x00' ∉ name
  /-- The bytes of the file are a text. -/
  decoded : ∀ bytes, workspace.readBytes path = .ok bytes → ∃ text, Utf8.decode bytes = .ok text
  /-- The scalars of the text denote what their form or their tag promises. -/
  denoted : ∀ text, workspace.readText path = .ok text →
    ∀ fault, Yaml.read settingsDepth text = .error fault → fault = .malformed
  /-- The keys and the paths are texts. -/
  regular : ∀ text, workspace.readText path = .ok text →
    ∀ pairs, Yaml.read settingsDepth text = .ok (.mapping pairs) → IsRegular pairs

/-- A path that is none is the only fault of taking it relative to a folder. -/
theorem resolvePath_eq_error_iff {fault : SettingsFault} :
    resolvePath folder name entries = .error fault ↔
      fault = .notText ∧ ¬IsPathValue (lastOf? entries name) := by
  unfold resolvePath
  cases lastOf? entries name with
  | none => simp [IsPathValue]
  | some datum => split <;> simp_all [IsPathValue, eq_comm]

theorem isPathValue_of_resolvePath (found : resolvePath folder name entries = .ok resolved) :
    IsPathValue (lastOf? entries name) := by
  by_contra bad
  have failed : resolvePath folder name entries = .error .notText :=
    resolvePath_eq_error_iff.mpr ⟨rfl, bad⟩
  rw [found] at failed
  cases failed

/-- Taking one path relative to a folder leaves the values of all other keys. -/
theorem lastOf?_resolvePath_of_ne {other : Text}
    (found : resolvePath folder name entries = .ok resolved) (different : name ≠ other) :
    lastOf? resolved other = lastOf? entries other := by
  unfold resolvePath at found
  split at found
  · rw [Except.ok.inj found]
  · rw [Except.ok.inj found]
  · rw [← Except.ok.inj found, lastOf?_put_of_ne different]
  · cases found

theorem isSome_mapM_textEntry?_iff : (pairs.mapM textEntry?).isSome = true ↔
    ∀ pair ∈ pairs, ∃ key, pair.1 = .text key := by
  rw [isSome_mapM_iff]
  refine forall₂_congr fun pair _ => ?_
  obtain ⟨key, value⟩ := pair
  unfold textEntry?
  split <;> simp_all

/-- The entries of pairs, their paths taken relative to a folder. -/
def entriesOfPairs (folder : Path) (pairs : List (Datum × Datum)) :
    Except SettingsFault (List (Text × Datum)) := do
  let entries ← resolvePath folder registryKey (collapse (pairs.filterMap textEntry?))
  let entries ← resolvePath folder sourceRootKey entries
  if (pairs.mapM textEntry?).isSome then return entries else throw .notText

theorem readEntries_eq : readEntries workspace path =
    readPairs workspace path >>= entriesOfPairs path.parent :=
  rfl

/-- The entries of pairs are explained exactly if the pairs are regular. -/
theorem isExplained_entriesOfPairs_iff :
    IsExplained (entriesOfPairs folder pairs) ↔ IsRegular pairs := by
  have apart : registryKey ≠ sourceRootKey := by decide
  unfold entriesOfPairs
  cases registry : resolvePath folder registryKey (collapse (pairs.filterMap textEntry?)) with
  | error fault =>
    rw [resolvePath_eq_error_iff, lastOf?_collapse] at registry
    obtain ⟨rfl, bad⟩ := registry
    rw [error_bind, isExplained_error_iff]
    exact iff_of_false (fun explained => explained rfl) fun regular => bad regular.registry
  | ok resolved =>
    have registryPath := isPathValue_of_resolvePath registry
    have kept := lastOf?_resolvePath_of_ne registry apart
    rw [lastOf?_collapse] at registryPath kept
    rw [ok_bind]
    cases sourceRoot : resolvePath folder sourceRootKey resolved with
    | error fault =>
      rw [resolvePath_eq_error_iff, kept] at sourceRoot
      obtain ⟨rfl, bad⟩ := sourceRoot
      rw [error_bind, isExplained_error_iff]
      exact iff_of_false (fun explained => explained rfl) fun regular => bad regular.sourceRoot
    | ok settled =>
      have rootPath := isPathValue_of_resolvePath sourceRoot
      rw [kept] at rootPath
      rw [ok_bind]
      split
      · rename_i keys
        exact iff_of_true (isExplained_ok settled)
          ⟨isSome_mapM_textEntry?_iff.mp keys, registryPath, rootPath⟩
      · rename_i keys
        exact iff_of_false (fun explained => isExplained_error_iff.mp explained rfl)
          fun regular => keys (isSome_mapM_textEntry?_iff.mpr regular.keys)

/-- The pairs of a configuration file are explained exactly if the fault of reading its text is, and
no scalar fails to denote what it promises. -/
theorem isExplained_readPairs_iff : IsExplained (readPairs workspace path) ↔
    (∀ fault, workspace.readText path = .error fault → fault.report? path ≠ none) ∧
      ∀ text, workspace.readText path = .ok text →
        ∀ fault, Yaml.read settingsDepth text = .error fault → fault = .malformed := by
  unfold readPairs
  cases workspace.readText path with
  | error fault => simp [SettingsFault.message?]
  | ok text =>
    simp only [Except.ok.injEq, forall_eq', reduceCtorEq, false_imp_iff, implies_true, true_and]
    cases Yaml.read settingsDepth text with
    | error fault => cases fault <;> simp [SettingsFault.message?]
    | ok datum => split <;> simp_all [SettingsFault.message?]

/-- There are pairs exactly if the file says nothing, and then there are none, or if they are what it
says. -/
theorem readPairs_eq_ok_iff : readPairs workspace path = .ok pairs ↔
    ∃ text, workspace.readText path = .ok text ∧
      (Yaml.read settingsDepth text = .ok .null ∧ pairs = [] ∨
        Yaml.read settingsDepth text = .ok (.mapping pairs)) := by
  unfold readPairs
  cases workspace.readText path with
  | error fault => simp
  | ok text =>
    simp only [Except.ok.injEq, exists_eq_left']
    cases Yaml.read settingsDepth text with
    | error fault => cases fault <;> simp
    | ok datum => split <;> simp_all [eq_comm]

theorem isRegular_nil : IsRegular [] :=
  ⟨by simp, .inl rfl, .inl rfl⟩

/-- The entries of a configuration file are explained exactly if it is reportable. -/
theorem isExplained_readEntries_iff :
    IsExplained (readEntries workspace path) ↔ IsReportable workspace path := by
  rw [readEntries_eq, isExplained_bind_iff, isExplained_readPairs_iff,
    Workspace.report?_readText_iff]
  simp only [isExplained_entriesOfPairs_iff]
  constructor
  · rintro ⟨⟨⟨noNul, decoded⟩, denoted⟩, regular⟩
    exact ⟨noNul, decoded, denoted, fun text read pairs holds =>
      regular pairs (readPairs_eq_ok_iff.mpr ⟨text, read, .inr holds⟩)⟩
  · rintro ⟨noNul, decoded, denoted, regular⟩
    refine ⟨⟨⟨noNul, decoded⟩, denoted⟩, fun pairs made => ?_⟩
    obtain ⟨text, read, ⟨-, rfl⟩ | holds⟩ := readPairs_eq_ok_iff.mp made
    · exact isRegular_nil
    · exact regular text read pairs holds

/-- The settings of entries and the environment. -/
def settle (environment : Environment) (entries : List (Text × Datum)) :
    Except SettingsFault Settings :=
  let entries := override registryKey (environment.setting? registryVariable) entries
  let entries := override sourceRootKey (environment.setting? sourceRootVariable) entries
  match check entries with
  | .valid settings => .ok settings
  | .faulty issues => .error (.invalid issues)

theorem load_eq {path? : Option Path} : load workspace environment path? =
    (match chooseFile workspace path? with
      | some path => readEntries workspace path
      | none => .ok []) >>= settle environment := by
  unfold load
  cases chooseFile workspace path? <;> rfl

/-- Settings that are not of the right kinds are explained. -/
theorem isExplained_settle : IsExplained (settle environment entries) := by
  unfold settle
  dsimp only
  split <;> simp [SettingsFault.message?]

/-- Loading settings comes to settings or to an explanation exactly if the configuration file, if one
is read, is reportable. -/
theorem isExplained_load_iff {path? : Option Path} : IsExplained (load workspace environment path?) ↔
    ∀ path, chooseFile workspace path? = some path → IsReportable workspace path := by
  rw [load_eq, isExplained_bind_iff]
  simp only [isExplained_settle, implies_true, and_true]
  cases chooseFile workspace path? with
  | none => simp
  | some path => simp [isExplained_readEntries_iff]

end Settings

namespace Session

variable {session : Session} {group words : List Text} {given : List (Text × Text)}
  {name : CommandName} {fault : SettingsFault} {message : Text}

/-- A run without settings ends with the explanation, before anything is printed or written. -/
theorem run_of_load_error (options : groupForm.read group = .ok { given })
    (opened : session.openGroup given = .ok ())
    (failed : Settings.load session.workspace session.environment
      (Arguments.path? { given } configOption) = .error fault)
    (explained : fault.message? = some message) :
    session.run (group ++ name.text :: words) =
      { ending := .failed message fault.isAbridged, workspace := session.workspace } := by
  rw [run, prepare_append options, opened, failed]
  simp only [mapError_error, ok_bind, error_bind, Ending.ofSettingsFault, explained]
  rfl

end Session

/-- A session in a folder with a configuration file. -/
def exampleConfigured (bytes : List UInt8) : Session where
  workspace := {
    here := ["work".toList]
    nodes := [
      (["work".toList], .folder),
      (["work".toList, "docs-explorer.yaml".toList], .file bytes)] }
  now := { year := 2024, month := 2, day := 3, hour := 4, minute := 5, second := 6, microsecond := 7 }

end RouteCatalog
