import Mathlib.Data.List.Infix
import RouteCatalog.Workspace

/-!
# Files that were written

A file that was written is found at its path, with the bytes that were written: `find_of_writeBytes`.
It came into the place that the path has in a folder (`IsPlace`). Making folders and writing a file
leave every folder where it is (`KeepsFolders`), so a walk over folders goes on as before. What a walk
comes to stands in the workspace (`Stands`), since the folder that it starts from does.
-/

namespace RouteCatalog

namespace Workspace

variable {workspace later : Workspace} {location next : Location} {node found : Node} {name : Text}
  {names : List Text}

/-- The location and all those above it are folders. -/
def IsFolderPath (workspace : Workspace) (location : Location) : Prop :=
  ∀ above, above <+: location → workspace.node? above = some .folder

/-- The folder that relative paths start from is there. -/
def IsRooted (workspace : Workspace) : Prop :=
  workspace.IsFolderPath workspace.here

instance (workspace : Workspace) (location : Location) :
    Decidable (workspace.IsFolderPath location) :=
  decidable_of_iff (∀ above ∈ location.inits, workspace.node? above = some .folder)
    (forall_congr' fun above => imp_congr_left (List.mem_inits above location))

instance (workspace : Workspace) : Decidable workspace.IsRooted :=
  inferInstanceAs (Decidable (workspace.IsFolderPath workspace.here))

/-- The node is found at the location, and a folder below folders only. -/
structure Stands (workspace : Workspace) (location : Location) (node : Node) : Prop where
  found : workspace.node? location = some node
  folders : node = .folder → workspace.IsFolderPath location

/-- Relative paths start from the same location, and every folder is still one. -/
structure KeepsFolders (workspace later : Workspace) : Prop where
  here : later.here = workspace.here
  folder : ∀ location, workspace.node? location = some .folder → later.node? location = some .folder

section Steps

theorem IsFolderPath.isFolder (folders : workspace.IsFolderPath location) :
    workspace.node? location = some .folder :=
  folders location (List.prefix_refl location)

theorem IsFolderPath.stands (folders : workspace.IsFolderPath location) :
    workspace.Stands location .folder :=
  ⟨folders.isFolder, fun _ => folders⟩

/-- Where a step leads: up, or down to something that is there, and always from a folder. -/
theorem step_eq_ok_iff : workspace.step location name = .ok (next, found) ↔
    workspace.node? location = some .folder ∧
      if name = ['.', '.'] then next = location.dropLast ∧ found = .folder
      else (Utf8.encode name).length ≤ maxNameBytes ∧ next = location ++ [name] ∧
        workspace.node? next = some found := by
  unfold step
  split
  · simp [*]
  · simp [*]
  · simp [*]
  · rename_i isFolder
    simp only [isFolder, true_and]
    by_cases up : name = ['.', '.']
    · simp only [if_pos up, Except.ok.injEq, Prod.mk.injEq]
      exact and_congr eq_comm eq_comm
    · simp only [if_neg up]
      by_cases long : maxNameBytes < (Utf8.encode name).length
      · simp [long, Nat.not_le.mpr long]
      · simp only [if_neg long, Nat.not_lt.mp long, true_and]
        cases below : workspace.node? (location ++ [name]) with
        | none =>
          simp only [reduceCtorEq, false_iff, not_and]
          rintro rfl
          simp [below]
        | some node =>
          simp only [Except.ok.injEq, Prod.mk.injEq]
          constructor
          · rintro ⟨rfl, rfl⟩
            exact ⟨rfl, below⟩
          · rintro ⟨rfl, same⟩
            exact ⟨rfl, Option.some.inj (below.symm.trans same)⟩

/-- Nothing is there where a step from a folder finds nothing. -/
theorem absent_of_step (isFolder : workspace.node? location = some .folder)
    (absent : workspace.step location name = .error .absent) :
    name ≠ ['.', '.'] ∧ (Utf8.encode name).length ≤ maxNameBytes ∧
      workspace.node? (location ++ [name]) = none := by
  simp only [step, isFolder] at absent
  split at absent
  · cases absent
  · rename_i down
    split at absent
    · cases absent
    · rename_i short
      split at absent
      · cases absent
      · exact ⟨down, Nat.not_lt.mp short, ‹_›⟩

/-- What a step from a folder leads to stands there. -/
theorem IsFolderPath.stands_step (folders : workspace.IsFolderPath location)
    (led : workspace.step location name = .ok (next, found)) : workspace.Stands next found := by
  obtain ⟨-, led⟩ := step_eq_ok_iff.mp led
  split at led
  · obtain ⟨rfl, rfl⟩ := led
    exact IsFolderPath.stands fun above front =>
      folders above (front.trans (List.dropLast_prefix location))
  · obtain ⟨-, rfl, held⟩ := led
    refine ⟨held, fun isFolder above front => ?_⟩
    obtain rfl | front := List.prefix_concat_iff.mp front
    · rw [held, isFolder]
    · exact folders above front

/-- Whatever a step starts from is a folder. -/
theorem Stands.isFolder_of_step (stands : workspace.Stands location node)
    (led : workspace.step location name = .ok (next, found)) : node = .folder :=
  Option.some.inj (stands.found.symm.trans (step_eq_ok_iff.mp led).1)

/-- What a walk leads to stands there, if what it starts from does. -/
theorem Stands.walk {start : Location} {first : Node} (stands : workspace.Stands start first)
    (led : workspace.walk start first names = .ok (next, found)) : workspace.Stands next found := by
  induction names generalizing start first with
  | nil =>
    obtain ⟨rfl, rfl⟩ := Prod.mk.inj (Except.ok.inj led)
    exact stands
  | cons name rest inductionHypothesis =>
    rw [Workspace.walk] at led
    cases step : workspace.step start name with
    | error fault => simp [step] at led
    | ok reached =>
      obtain ⟨location, node⟩ := reached
      simp only [step] at led
      have folders := stands.folders (stands.isFolder_of_step step)
      exact inductionHypothesis (folders.stands_step step) led

/-- A walk that leads to a folder starts from one. -/
theorem Stands.isFolder_of_walk (stands : workspace.Stands location node)
    (led : workspace.walk location node names = .ok (next, .folder)) : node = .folder := by
  cases names with
  | nil => exact (Prod.mk.inj (Except.ok.inj led)).2
  | cons name rest =>
    rw [Workspace.walk] at led
    cases step : workspace.step location name with
    | error fault => simp [step] at led
    | ok reached => exact stands.isFolder_of_step step

/-- A walk over the names in two parts. -/
theorem walk_append {front back : List Text} : workspace.walk location node (front ++ back) =
    match workspace.walk location node front with
    | .ok (next, found) => workspace.walk next found back
    | .error fault => .error fault := by
  induction front generalizing location node with
  | nil => rfl
  | cons name rest inductionHypothesis =>
    simp only [List.cons_append, walk]
    cases workspace.step location name with
    | error fault => rfl
    | ok reached => exact inductionHypothesis

/-- A walk leads over folders to the last of its names. -/
theorem IsFolderPath.exists_of_walk_concat {last : Text} {start : Location}
    (folders : workspace.IsFolderPath start)
    (led : workspace.walk start .folder (names ++ [last]) = .ok (next, found)) :
    ∃ folder, workspace.walk start .folder names = .ok (folder, .folder) ∧
      workspace.step folder last = .ok (next, found) := by
  rw [walk_append] at led
  cases front : workspace.walk start .folder names with
  | error fault => simp [front] at led
  | ok reached =>
    obtain ⟨folder, node⟩ := reached
    simp only [front, walk] at led
    cases step : workspace.step folder last with
    | error fault => simp [step] at led
    | ok reached =>
      simp only [step] at led
      obtain rfl := (folders.stands.walk front).isFolder_of_step step
      exact ⟨folder, rfl, by rw [step, ← led]⟩

end Steps

section Folders

theorem KeepsFolders.refl : workspace.KeepsFolders workspace :=
  ⟨rfl, fun _ isFolder => isFolder⟩

theorem KeepsFolders.trans {last : Workspace} (first : workspace.KeepsFolders later)
    (second : later.KeepsFolders last) : workspace.KeepsFolders last :=
  ⟨second.here.trans first.here, fun location isFolder =>
    second.folder location (first.folder location isFolder)⟩

theorem KeepsFolders.isFolderPath (keeps : workspace.KeepsFolders later)
    (folders : workspace.IsFolderPath location) : later.IsFolderPath location :=
  fun above front => keeps.folder above (folders above front)

theorem KeepsFolders.isRooted (keeps : workspace.KeepsFolders later)
    (rooted : workspace.IsRooted) : later.IsRooted := by
  unfold IsRooted
  rw [keeps.here]
  exact keeps.isFolderPath rooted

/-- What is put where there is no folder leaves the folders. -/
theorem keepsFolders_place (noFolder : workspace.node? location ≠ some .folder) :
    workspace.KeepsFolders (workspace.place location node) := by
  refine ⟨rfl, fun other isFolder => ?_⟩
  have different : other ≠ location := by
    rintro rfl
    exact noFolder isFolder
  rw [node?_place_of_ne workspace node different, isFolder]

/-- A folder that is put below folders only. -/
theorem IsFolderPath.place (folders : workspace.IsFolderPath location)
    (nothing : workspace.node? (location ++ [name]) = none) :
    (workspace.place (location ++ [name]) .folder).IsFolderPath (location ++ [name]) := by
  have keeps : workspace.KeepsFolders (workspace.place (location ++ [name]) .folder) :=
    keepsFolders_place (by simp [nothing])
  intro above front
  obtain rfl | front := List.prefix_concat_iff.mp front
  · exact node?_place workspace .folder (by simp)
  · exact keeps.isFolderPath folders above front

theorem KeepsFolders.step (keeps : workspace.KeepsFolders later)
    (led : workspace.step location name = .ok (next, .folder)) :
    later.step location name = .ok (next, .folder) := by
  obtain ⟨isFolder, led⟩ := step_eq_ok_iff.mp led
  refine step_eq_ok_iff.mpr ⟨keeps.folder location isFolder, ?_⟩
  by_cases up : name = ['.', '.']
  · rw [if_pos up] at led ⊢
    exact led
  · rw [if_neg up] at led ⊢
    exact ⟨led.1, led.2.1, keeps.folder next led.2.2⟩

/-- A walk over folders goes on over the same folders. -/
theorem KeepsFolders.walk {start : Location} (keeps : workspace.KeepsFolders later)
    (folders : workspace.IsFolderPath start)
    (led : workspace.walk start .folder names = .ok (next, .folder)) :
    later.walk start .folder names = .ok (next, .folder) := by
  induction names generalizing start with
  | nil => exact led
  | cons name rest inductionHypothesis =>
    rw [Workspace.walk] at led ⊢
    cases step : workspace.step start name with
    | error fault => simp [step] at led
    | ok reached =>
      obtain ⟨location, node⟩ := reached
      simp only [step] at led
      have stands := folders.stands_step step
      obtain rfl := stands.isFolder_of_walk led
      simp only [keeps.step step]
      exact inductionHypothesis (stands.folders rfl) led

/-- Making folders leaves those that are there. -/
theorem keepsFolders_makeFoldersFrom (folders : workspace.IsFolderPath location)
    (made : workspace.makeFoldersFrom location names = (.ok next, later)) :
    workspace.KeepsFolders later := by
  induction names generalizing workspace location with
  | nil =>
    obtain ⟨-, rfl⟩ := Prod.mk.inj made
    exact .refl
  | cons name rest inductionHypothesis =>
    unfold makeFoldersFrom at made
    split at made
    · rename_i following step
      exact inductionHypothesis ((folders.stands_step step).folders rfl) made
    · cases made
    · rename_i absent
      obtain ⟨-, -, nothing⟩ := absent_of_step folders.isFolder absent
      have keeps : workspace.KeepsFolders (workspace.place (location ++ [name]) .folder) :=
        keepsFolders_place (by simp [nothing])
      exact keeps.trans (inductionHypothesis (folders.place nothing) made)
    · cases made

theorem IsRooted.isFolderPath_origin (rooted : workspace.IsRooted) (path : Path) :
    workspace.IsFolderPath (workspace.origin path) := by
  unfold origin
  split
  · intro above front
    obtain rfl := List.prefix_nil.mp front
    rfl
  · exact rooted

theorem keepsFolders_makeFolders (rooted : workspace.IsRooted) {path : Path}
    (made : workspace.makeFolders path = (.ok location, later)) :
    workspace.KeepsFolders later := by
  unfold makeFolders at made
  split at made
  · cases made
  · exact keepsFolders_makeFoldersFrom (rooted.isFolderPath_origin path) made

end Folders

section Files

variable {path : Path} {bytes : List UInt8}

theorem find_eq_ok_iff : workspace.find path = .ok (next, found) ↔ path.fault? = none ∧
    workspace.walk (workspace.origin path) .folder path.names = .ok (next, found) := by
  unfold find
  split <;> simp_all

/-- A path that leads nowhere can be looked up. -/
theorem find_eq_absent_iff : workspace.find path = .error .absent ↔ path.fault? = none ∧
    workspace.walk (workspace.origin path) .folder path.names = .error .absent := by
  unfold find
  split
  · rename_i fault found
    have different : fault ≠ .absent := by
      rintro rfl
      unfold Path.fault? at found
      split at found
      · cases found
      · split at found <;> cases found
    simp [found, different]
  · simp_all

/-- A file that is written at the path comes into the folder, under the name. -/
structure IsPlace (workspace : Workspace) (path : Path) (folder : Location) (name : Text) : Prop where
  noFault : path.fault? = none
  names : path.names = path.parent.names ++ [name]
  above : workspace.walk (workspace.origin path) .folder path.parent.names = .ok (folder, .folder)
  down : name ≠ ['.', '.']
  short : (Utf8.encode name).length ≤ maxNameBytes
  noFolder : workspace.node? (folder ++ [name]) ≠ some .folder

/-- A file is the place of its path. -/
theorem exists_isPlace_of_find (rooted : workspace.IsRooted) {old : List UInt8}
    (found : workspace.find path = .ok (location, .file old)) :
    ∃ folder name, workspace.IsPlace path folder name ∧ location = folder ++ [name] := by
  obtain ⟨noFault, led⟩ := find_eq_ok_iff.mp found
  obtain empty | ⟨front, last, same⟩ := List.eq_nil_or_concat' path.names
  · rw [empty, walk] at led
    cases led
  · rw [same] at led
    obtain ⟨folder, front, step⟩ := (rooted.isFolderPath_origin path).exists_of_walk_concat led
    obtain ⟨-, step⟩ := step_eq_ok_iff.mp step
    split at step
    · cases step.2
    · rename_i down
      obtain ⟨short, rfl, held⟩ := step
      exact ⟨folder, last, ⟨noFault, by simp [Path.parent, same], by simpa [Path.parent, same], down,
        short, by simp [held]⟩, rfl⟩

/-- A path that leads nowhere, though its folder is there, has a place in it. -/
theorem isPlace_of_absent (rooted : workspace.IsRooted) {folder : Location}
    (absent : workspace.find path = .error .absent)
    (above : workspace.find path.parent = .ok (folder, .folder)) :
    workspace.IsPlace path folder path.name := by
  obtain ⟨noFault, led⟩ := find_eq_absent_iff.mp absent
  obtain ⟨-, above⟩ := find_eq_ok_iff.mp above
  obtain empty | ⟨front, last, same⟩ := List.eq_nil_or_concat' path.names
  · rw [empty, walk] at led
    cases led
  · have parent : workspace.walk (workspace.origin path) .folder front = .ok (folder, .folder) := by
      simpa [Path.parent, same, origin, Path.isAbsolute] using above
    have isFolder := ((rooted.isFolderPath_origin path).stands.walk parent).found
    have step : workspace.step folder last = .error .absent := by
      rw [same, walk_append] at led
      simp only [parent, walk] at led
      split at led
      · cases led
      · rename_i fault step
        rw [step, Except.error.inj led]
    obtain ⟨down, short, nothing⟩ := absent_of_step isFolder step
    obtain rfl : path.name = last := by simp [Path.name, same]
    exact ⟨noFault, by simp [Path.parent, same], by simpa [Path.parent, same], down, short,
      by simp [nothing]⟩

/-- Bytes that were written came into the place of their path, or went to a device. -/
theorem eq_of_writeBytes (rooted : workspace.IsRooted)
    (written : workspace.writeBytes path bytes = (.ok (), later)) :
    (∃ location, workspace.find path = .ok (location, .sink)) ∧ later = workspace ∨
    ∃ folder name, workspace.IsPlace path folder name ∧
      later = workspace.place (folder ++ [name]) (.file bytes) := by
  unfold writeBytes at written
  split at written
  · rename_i location old found
    obtain ⟨-, rfl⟩ := Prod.mk.inj written
    obtain ⟨folder, name, isPlace, rfl⟩ := exists_isPlace_of_find rooted found
    exact .inr ⟨folder, name, isPlace, rfl⟩
  · rename_i location found
    obtain ⟨-, rfl⟩ := Prod.mk.inj written
    exact .inl ⟨⟨location, found⟩, rfl⟩
  · cases written
  · rename_i absent
    split at written
    · rename_i folder above
      obtain ⟨-, rfl⟩ := Prod.mk.inj written
      exact .inr ⟨folder, path.name, isPlace_of_absent rooted absent above, rfl⟩
    · cases written
    · cases written
  · cases written

/-- A file that is put into its place is found there. -/
theorem IsPlace.find_place {folder : Location} (isPlace : workspace.IsPlace path folder name)
    (rooted : workspace.IsRooted) :
    (workspace.place (folder ++ [name]) (.file bytes)).find path =
      .ok (folder ++ [name], .file bytes) := by
  have keeps : workspace.KeepsFolders (workspace.place (folder ++ [name]) (.file bytes)) :=
    keepsFolders_place isPlace.noFolder
  have origin : (workspace.place (folder ++ [name]) (.file bytes)).origin path =
      workspace.origin path := rfl
  have folders := rooted.isFolderPath_origin path
  have isFolder := ((folders.stands.walk isPlace.above).folders rfl).isFolder
  have step : (workspace.place (folder ++ [name]) (.file bytes)).step folder name =
      .ok (folder ++ [name], .file bytes) := by
    refine step_eq_ok_iff.mpr ⟨keeps.folder folder isFolder, ?_⟩
    rw [if_neg isPlace.down]
    exact ⟨isPlace.short, rfl, node?_place workspace (.file bytes) (by simp)⟩
  refine find_eq_ok_iff.mpr ⟨isPlace.noFault, ?_⟩
  rw [origin, isPlace.names, walk_append]
  simp only [keeps.walk folders isPlace.above, walk, step]

/-- A file that was written is found at its path, unless the path leads to a device. -/
theorem find_of_writeBytes (rooted : workspace.IsRooted)
    (written : workspace.writeBytes path bytes = (.ok (), later))
    (noSink : ∀ location, later.find path ≠ .ok (location, .sink)) :
    ∃ location, later.find path = .ok (location, .file bytes) := by
  obtain ⟨⟨location, found⟩, rfl⟩ | ⟨folder, name, isPlace, rfl⟩ := eq_of_writeBytes rooted written
  · exact absurd found (noSink location)
  · exact ⟨folder ++ [name], isPlace.find_place rooted⟩

theorem keepsFolders_writeBytes (rooted : workspace.IsRooted)
    (written : workspace.writeBytes path bytes = (.ok (), later)) : workspace.KeepsFolders later := by
  obtain ⟨-, rfl⟩ | ⟨folder, name, isPlace, rfl⟩ := eq_of_writeBytes rooted written
  · exact .refl
  · exact keepsFolders_place isPlace.noFolder

end Files

end Workspace

end RouteCatalog
