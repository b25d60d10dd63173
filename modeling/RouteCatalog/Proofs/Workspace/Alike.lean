import RouteCatalog.Proofs.Workspace.Written

/-!
# Paths that lead to the same

What is read at a path stays as it is if the path leads to what it led to before, or still leads
nowhere (`LeadsAlike`). Writing a file, and making the folders above it, changes nothing off the way
of its path (`ChangesAlong`). So any path leads to the same that shares only folders with it which are
there already (`IsApart`): `ChangesAlong.leadsAlike`.
-/

namespace RouteCatalog

namespace Workspace

variable {workspace later : Workspace} {path : Path}

/-- The path leads to the same in both workspaces, or nowhere in either. -/
def LeadsAlike (workspace later : Workspace) (path : Path) : Prop :=
  later.find path = workspace.find path ∨
    workspace.isPresent path = .ok false ∧ later.isPresent path = .ok false

instance (path : Path) : Decidable (workspace.LeadsAlike later path) :=
  inferInstanceAs (Decidable (_ ∨ _))

section Lookups

theorem isFile_of_isPresent (absent : workspace.isPresent path = .ok false) :
    workspace.isFile path = .ok false := by
  unfold isPresent at absent
  unfold isFile
  split at absent <;> simp_all

theorem LeadsAlike.isPresent (alike : workspace.LeadsAlike later path) :
    later.isPresent path = workspace.isPresent path := by
  obtain same | ⟨before, after⟩ := alike
  · rw [Workspace.isPresent, Workspace.isPresent, same]
  · rw [before, after]

theorem LeadsAlike.isFile (alike : workspace.LeadsAlike later path) :
    later.isFile path = workspace.isFile path := by
  obtain same | ⟨before, after⟩ := alike
  · rw [Workspace.isFile, Workspace.isFile, same]
  · rw [isFile_of_isPresent before, isFile_of_isPresent after]

/-- A path that leads somewhere leads to the same. -/
theorem LeadsAlike.find (alike : workspace.LeadsAlike later path) {found : Location × Node}
    (led : workspace.find path = .ok found) : later.find path = .ok found := by
  obtain same | ⟨before, -⟩ := alike
  · rw [same, led]
  · simp [Workspace.isPresent, led] at before

theorem LeadsAlike.readText (alike : workspace.LeadsAlike later path) {text : Text}
    (read : workspace.readText path = .ok text) : later.readText path = .ok text := by
  cases led : workspace.find path with
  | error fault => simp [Workspace.readText, readExact, readBytes, led, Except.map] at read
  | ok found =>
    rw [← read, Workspace.readText, Workspace.readText, readExact, readExact, readBytes, readBytes,
      led, alike.find led]

/-- What is in a file is the same, be it text or not. -/
theorem LeadsAlike.readText_of_isFile (alike : workspace.LeadsAlike later path)
    (isFile : workspace.isFile path = .ok true) :
    later.readText path = workspace.readText path := by
  cases led : workspace.find path with
  | error fault =>
    rw [Workspace.isFile, led] at isFile
    split at isFile <;> simp_all
  | ok found =>
    rw [Workspace.readText, Workspace.readText, readExact, readExact, readBytes, readBytes, led,
      alike.find led]

theorem LeadsAlike.leadsSomewhere {text : Text} (alike : workspace.LeadsAlike later (.ofText text))
    (led : workspace.leadsSomewhere text = .ok true) : later.leadsSomewhere text = .ok true := by
  cases found : workspace.find (.ofText text) with
  | error fault => cases fault <;> simp [Workspace.leadsSomewhere, found] at led
  | ok reached =>
    rw [← led, Workspace.leadsSomewhere, Workspace.leadsSomewhere, found, alike.find found]

end Lookups

section Ways

variable {location next : Location} {node found : Node} {name : Text} {names : List Text}

/-- The location that a name leads to, whatever is found there. -/
def lead (location : Location) (name : Text) : Location :=
  if name = ['.', '.'] then location.dropLast else location ++ [name]

/-- The locations that names lead over. -/
def wayFrom (location : Location) : List Text → List Location
  | [] => []
  | name :: rest => lead location name :: wayFrom (lead location name) rest

/-- The locations that a path leads over. -/
def way (workspace : Workspace) (path : Path) : List Location :=
  workspace.origin path :: wayFrom (workspace.origin path) path.names

/-- The paths share only folders that are there. -/
def IsApart (workspace : Workspace) (path other : Path) : Prop :=
  ∀ location ∈ workspace.way path, location ∈ workspace.way other →
    workspace.node? location = some .folder

instance (path other : Path) : Decidable (workspace.IsApart path other) :=
  inferInstanceAs (Decidable (∀ location ∈ workspace.way path, _))

/-- Every folder is still one, and only what the path leads over can differ. -/
structure ChangesAlong (workspace later : Workspace) (path : Path) : Prop where
  keeps : workspace.KeepsFolders later
  off : ∀ location ∉ workspace.way path, later.node? location = workspace.node? location

theorem eq_lead_of_step (led : workspace.step location name = .ok (next, found)) :
    next = lead location name := by
  obtain ⟨-, led⟩ := step_eq_ok_iff.mp led
  unfold lead
  split at led <;> simp_all

theorem wayFrom_append {front back : List Text} :
    wayFrom location (front ++ back) =
      wayFrom location front ++ wayFrom (front.foldl lead location) back := by
  induction front generalizing location with
  | nil => rfl
  | cons name rest inductionHypothesis => simp [wayFrom, inductionHypothesis]

theorem eq_foldl_lead_of_walk (led : workspace.walk location node names = .ok (next, found)) :
    next = names.foldl lead location := by
  induction names generalizing location node with
  | nil => exact (Prod.mk.inj (Except.ok.inj led)).1.symm
  | cons name rest inductionHypothesis =>
    rw [walk] at led
    split at led
    · rename_i visited between step
      rw [inductionHypothesis led, eq_lead_of_step step, List.foldl_cons]
    · cases led

/-- A step depends on what is found where it starts and where it leads. -/
theorem step_congr (here : later.node? location = workspace.node? location)
    (there : later.node? (lead location name) = workspace.node? (lead location name)) :
    later.step location name = workspace.step location name := by
  unfold step
  rw [here]
  by_cases up : name = ['.', '.']
  · simp only [if_pos up]
  · rw [lead, if_neg up] at there
    simp only [if_neg up, there]

/-- A walk depends on what is found where it leads over. -/
theorem walk_congr (agree : ∀ visited ∈ location :: wayFrom location names,
    later.node? visited = workspace.node? visited) :
    later.walk location node names = workspace.walk location node names := by
  induction names generalizing location node with
  | nil => rfl
  | cons name rest inductionHypothesis =>
    have step : later.step location name = workspace.step location name :=
      step_congr (agree location (by simp)) (agree _ (by simp [wayFrom]))
    rw [walk, walk, step]
    split
    · rename_i next found led
      obtain rfl := eq_lead_of_step led
      exact inductionHypothesis fun visited member => agree visited (List.mem_cons_of_mem _ member)
    · rfl

/-- A path leads to the same if it shares only folders with the path along which something changed. -/
theorem ChangesAlong.leadsAlike {file : Path} (changes : workspace.ChangesAlong later file)
    (apart : workspace.IsApart file path) : workspace.LeadsAlike later path := by
  have origin : later.origin path = workspace.origin path := by
    rw [Workspace.origin, Workspace.origin, changes.keeps.here]
  have agree : ∀ visited ∈ workspace.way path, later.node? visited = workspace.node? visited := by
    intro visited member
    by_cases shared : visited ∈ workspace.way file
    · have isFolder := apart visited shared member
      rw [isFolder, changes.keeps.folder visited isFolder]
    · exact changes.off visited shared
  left
  rw [find, find, origin, walk_congr agree]

end Ways

section Writing

variable {location next : Location} {names : List Text} {bytes : List UInt8}

/-- Changes along a path, and then along one that leads further. -/
theorem ChangesAlong.trans {last : Workspace} {first second : Path}
    (before : workspace.ChangesAlong later first) (behind : later.ChangesAlong last second)
    (along : workspace.way first ⊆ workspace.way second) : workspace.ChangesAlong last second := by
  have way : later.way second = workspace.way second := by
    simp only [Workspace.way, origin, before.keeps.here]
  refine ⟨before.keeps.trans behind.keeps, fun location off => ?_⟩
  rw [behind.off location (way ▸ off), before.off location fun member => off (along member)]

/-- Making folders changes only what the names lead over. -/
theorem node?_of_makeFoldersFrom {other : Location} (folders : workspace.IsFolderPath location)
    (made : workspace.makeFoldersFrom location names = (.ok next, later))
    (off : other ∉ wayFrom location names) : later.node? other = workspace.node? other := by
  induction names generalizing workspace location with
  | nil =>
    obtain ⟨-, rfl⟩ := Prod.mk.inj made
    rfl
  | cons name rest inductionHypothesis =>
    rw [wayFrom, List.mem_cons, not_or] at off
    obtain ⟨different, off⟩ := off
    unfold makeFoldersFrom at made
    split at made
    · rename_i following step
      have below := (folders.stands_step step).folders rfl
      obtain rfl := eq_lead_of_step step
      exact inductionHypothesis below made off
    · cases made
    · rename_i absent
      obtain ⟨down, -, nothing⟩ := absent_of_step folders.isFolder absent
      rw [lead, if_neg down] at different off
      rw [inductionHypothesis (folders.place nothing) made off,
        node?_place_of_ne workspace .folder different]
    · cases made

theorem changesAlong_makeFolders (rooted : workspace.IsRooted)
    (made : workspace.makeFolders path = (.ok location, later)) :
    workspace.ChangesAlong later path := by
  refine ⟨keepsFolders_makeFolders rooted made, fun other off => ?_⟩
  unfold makeFolders at made
  split at made
  · cases made
  · exact node?_of_makeFoldersFrom (rooted.isFolderPath_origin path) made
      fun member => off (List.mem_cons_of_mem _ member)

/-- The place of a file is where its path leads. -/
theorem IsPlace.mem_way {folder : Location} {name : Text}
    (isPlace : workspace.IsPlace path folder name) : folder ++ [name] ∈ workspace.way path := by
  rw [way, isPlace.names, wayFrom_append, ← eq_foldl_lead_of_walk isPlace.above, wayFrom, lead,
    if_neg isPlace.down]
  simp

theorem changesAlong_writeBytes (rooted : workspace.IsRooted)
    (written : workspace.writeBytes path bytes = (.ok (), later)) :
    workspace.ChangesAlong later path := by
  refine ⟨keepsFolders_writeBytes rooted written, fun other off => ?_⟩
  obtain ⟨-, rfl⟩ | ⟨folder, name, isPlace, rfl⟩ := eq_of_writeBytes rooted written
  · rfl
  · have different : other ≠ folder ++ [name] := by
      rintro rfl
      exact off isPlace.mem_way
    exact node?_place_of_ne workspace (.file bytes) different

/-- The way of a path begins with that of its folder. -/
theorem way_parent_subset : workspace.way path.parent ⊆ workspace.way path := by
  obtain empty | ⟨front, last, same⟩ := List.eq_nil_or_concat' path.names
  · simp [way, Path.parent, empty, origin, Path.isAbsolute]
  · have names : path.names = path.parent.names ++ [last] := by simp [Path.parent, same]
    have origin : workspace.origin path.parent = workspace.origin path := rfl
    rw [way, way, names, wayFrom_append, origin]
    exact List.cons_subset_cons _ (List.subset_append_left _ _)

end Writing

end Workspace

end RouteCatalog
