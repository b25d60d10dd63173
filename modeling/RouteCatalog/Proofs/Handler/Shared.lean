import Mathlib.Control.Monad.Basic
import RouteCatalog.Handler

/-!
# Handler files that endpoints share

The path of a handler file tells the page, the stem and the suffix it was made of. So two endpoints
get the same handler only if they are of one page and the file has a stem that both may have:
`findHandler_eq_iff`. Stems are not distinct for distinct endpoints, since names may hold the
underscore in front of the version: `not_findHandler_apart`.
-/

namespace RouteCatalog

/-- The text names something inside a folder. -/
structure IsComponent (text : Text) : Prop where
  nonempty : text ≠ []
  noSlash : '/' ∉ text
  notDot : text ≠ ['.']
  notDots : text ≠ ['.', '.']

instance : DecidablePred IsComponent := fun text =>
  decidable_of_iff (text ≠ [] ∧ '/' ∉ text ∧ text ≠ ['.'] ∧ text ≠ ['.', '.'])
    ⟨fun ⟨nonempty, noSlash, notDot, notDots⟩ => ⟨nonempty, noSlash, notDot, notDots⟩,
      fun component =>
        ⟨component.nonempty, component.noSlash, component.notDot, component.notDots⟩⟩

/-- What the handler of an endpoint is looked up by. -/
structure HandlerKey where
  page : Text
  name : Text
  version : Text
  deriving DecidableEq, Repr

/-- The parts of the key name something inside a folder each. -/
structure HandlerKey.IsProper (key : HandlerKey) : Prop where
  page : IsComponent key.page
  name : IsComponent key.name
  version : IsComponent key.version

instance : DecidablePred HandlerKey.IsProper := fun key =>
  decidable_of_iff (IsComponent key.page ∧ IsComponent key.name ∧ IsComponent key.version)
    ⟨fun ⟨page, name, version⟩ => ⟨page, name, version⟩,
      fun proper => ⟨proper.page, proper.name, proper.version⟩⟩

/-- The stem of the handler file, unless that leaves the first version out. -/
def HandlerKey.stem (key : HandlerKey) : Text :=
  key.name ++ '_' :: key.version

/-- The handler file of an endpoint, with the suffixes that are not configured otherwise. -/
def HandlerKey.find (workspace : Workspace) (root : Path) (key : HandlerKey) :
    Except FileFault (Option Path) :=
  findHandler workspace root key.page key.name key.version defaultExtensions

/-- The path of the handler file of a page with a stem and a suffix. -/
def handlerFile (root : Path) (page stem suffix : Text) : Path :=
  ((if page = rootPage then root else root.child page).child handlerFolder).child (stem ++ suffix)

/-- The file that there is of a page with a stem: of several suffixes the first. -/
def stemFile (workspace : Workspace) (root : Path) (page stem : Text) :
    Except FileFault (Option Path) :=
  firstFile? workspace (defaultExtensions.map (handlerFile root page stem))

section Search

variable {workspace : Workspace} {paths front back : List Path} {path : Path}

theorem mem_of_firstFile? (found : firstFile? workspace paths = .ok (some path)) : path ∈ paths := by
  fun_induction firstFile? workspace paths with
  | case1 => cases found
  | case2 first rest isFile => simp_all
  | case3 first rest noFile inductionHypothesis => simp [inductionHypothesis found]
  | case4 first rest fault failed => cases found

/-- What is found among paths is found among the first of them or among the others. -/
theorem firstFile?_append (found : firstFile? workspace (front ++ back) = .ok (some path)) :
    firstFile? workspace front = .ok (some path) ∨ firstFile? workspace back = .ok (some path) := by
  induction front with
  | nil => exact .inr found
  | cons first rest inductionHypothesis =>
    rw [List.cons_append, firstFile?] at found
    rw [firstFile?]
    split at found
    · exact .inl found
    · exact inductionHypothesis found
    · cases found

/-- A handler file is the one that there is with a stem of the endpoint. -/
theorem exists_stem_of_find {root : Path} {key : HandlerKey}
    (found : key.find workspace root = .ok (some path)) :
    ∃ stem ∈ handlerStems key.name key.version,
      stemFile workspace root key.page stem = .ok (some path) := by
  have searched : firstFile? workspace ((handlerStems key.name key.version).flatMap fun stem =>
      defaultExtensions.map (handlerFile root key.page stem)) = .ok (some path) := found
  clear found
  generalize handlerStems key.name key.version = stems at searched ⊢
  induction stems with
  | nil => cases searched
  | cons stem rest inductionHypothesis =>
    obtain here | later := firstFile?_append searched
    · exact ⟨stem, by simp, here⟩
    · obtain ⟨other, inRest, found⟩ := inductionHypothesis later
      exact ⟨other, by simp [inRest], found⟩

end Search

section Paths

variable {root : Path} {page stem suffix : Text}

/-- What is inside a folder has one name more than the folder. -/
theorem names_child {folder : Path} {name : Text} (nonempty : name ≠ []) (noSlash : '/' ∉ name)
    (notDot : name ≠ ['.']) : (folder.child name).names = folder.names ++ [name] := by
  rw [Path.child, Path.ofText_of_plain nonempty noSlash notDot]
  rfl

/-- The names that lead from the root to the folder of a page. -/
def pageNames (page : Text) : List Text :=
  if page = rootPage then [] else [page]

theorem plain_of_mem_defaultExtensions (known : suffix ∈ defaultExtensions) :
    '/' ∉ suffix ∧ 2 ≤ suffix.length := by
  revert suffix
  decide

theorem names_handlerFile (isPage : IsComponent page) (noSlash : '/' ∉ stem)
    (known : suffix ∈ defaultExtensions) :
    (handlerFile root page stem suffix).names =
      root.names ++ pageNames page ++ [handlerFolder, stem ++ suffix] := by
  obtain ⟨suffixNoSlash, long⟩ := plain_of_mem_defaultExtensions known
  have last : stem ++ suffix ≠ [] ∧ '/' ∉ stem ++ suffix ∧ stem ++ suffix ≠ ['.'] := by
    refine ⟨?_, by simp [noSlash, suffixNoSlash], ?_⟩ <;>
    · intro same
      have lengths := congrArg List.length same
      simp only [List.length_append, List.length_nil, List.length_singleton] at lengths
      omega
  rw [handlerFile, names_child last.1 last.2.1 last.2.2,
    names_child (by decide) (by decide) (by decide)]
  by_cases isRoot : page = rootPage
  · simp [pageNames, isRoot]
  · simp [pageNames, isRoot, names_child isPage.nonempty isPage.noSlash isPage.notDot]

/-- No suffix is the end of another one with something in front. -/
theorem eq_of_append_suffix {other otherSuffix : Text} (known : suffix ∈ defaultExtensions)
    (otherKnown : otherSuffix ∈ defaultExtensions) (same : stem ++ suffix = other ++ otherSuffix) :
    stem = other := by
  have lastTwo : ∀ first ∈ defaultExtensions, ∀ second ∈ defaultExtensions,
      first.reverse.take 2 = second.reverse.take 2 → first = second := by
    decide
  have ends : ∀ (front : Text) {back : Text}, back ∈ defaultExtensions →
      (front ++ back).reverse.take 2 = back.reverse.take 2 := by
    intro front back known
    have long := (plain_of_mem_defaultExtensions known).2
    rw [List.reverse_append, List.take_append_of_le_length (by simpa using long)]
  have suffixes : suffix = otherSuffix := by
    apply lastTwo suffix known otherSuffix otherKnown
    rw [← ends stem known, same, ends other otherKnown]
  rw [suffixes] at same
  exact List.append_cancel_right same

/-- The path of a handler file tells its page and its stem. -/
theorem eq_of_handlerFile {otherPage other otherSuffix : Text} (isPage : IsComponent page)
    (isOtherPage : IsComponent otherPage) (noSlash : '/' ∉ stem) (otherNoSlash : '/' ∉ other)
    (known : suffix ∈ defaultExtensions) (otherKnown : otherSuffix ∈ defaultExtensions)
    (same : handlerFile root page stem suffix = handlerFile root otherPage other otherSuffix) :
    page = otherPage ∧ stem = other := by
  have names := congrArg Path.names same
  rw [names_handlerFile isPage noSlash known, names_handlerFile isOtherPage otherNoSlash otherKnown,
    List.append_assoc, List.append_assoc, List.append_cancel_left_eq] at names
  obtain ⟨pages, file⟩ := List.append_inj' names rfl
  have stems : stem = other := eq_of_append_suffix known otherKnown (by simpa using file)
  refine ⟨?_, stems⟩
  unfold pageNames at pages
  split at pages <;> rename_i isRoot <;> split at pages <;> rename_i otherRoot
  · exact isRoot.trans otherRoot.symm
  · cases pages
  · cases pages
  · simpa using pages

end Paths

section Stems

variable {key first second : HandlerKey} {stem : Text}

theorem mem_handlerStems_iff : stem ∈ handlerStems key.name key.version ↔
    stem = key.stem ∨ key.version = defaultVersion ∧ stem = key.name := by
  unfold handlerStems
  split <;> rename_i version <;> simp [version, HandlerKey.stem]

theorem noSlash_of_mem_handlerStems (proper : key.IsProper)
    (member : stem ∈ handlerStems key.name key.version) : '/' ∉ stem := by
  obtain rfl | ⟨-, rfl⟩ := mem_handlerStems_iff.mp member
  · simp [HandlerKey.stem, proper.name.noSlash, proper.version.noSlash]
  · exact proper.name.noSlash

/-- Of two endpoints with a common stem, the stems with the version are the same, or one is the name of
the first version of the other. -/
theorem stems_of_common (different : first ≠ second) (pages : first.page = second.page)
    (isFirst : stem ∈ handlerStems first.name first.version)
    (isSecond : stem ∈ handlerStems second.name second.version) :
    first.stem = second.stem ∨ second.version = defaultVersion ∧ second.name = first.stem ∨
      first.version = defaultVersion ∧ first.name = second.stem := by
  obtain rfl | ⟨firstVersion, rfl⟩ := mem_handlerStems_iff.mp isFirst
  · obtain same | ⟨version, same⟩ := mem_handlerStems_iff.mp isSecond
    · exact .inl same
    · exact .inr (.inl ⟨version, same.symm⟩)
  · obtain same | ⟨secondVersion, same⟩ := mem_handlerStems_iff.mp isSecond
    · exact .inr (.inr ⟨firstVersion, same⟩)
    · cases first
      cases second
      simp_all

end Stems

/-- The file that there is with a stem has a path of that stem. -/
theorem exists_suffix_of_stemFile {workspace : Workspace} {root path : Path} {page stem : Text}
    (found : stemFile workspace root page stem = .ok (some path)) :
    ∃ suffix ∈ defaultExtensions, handlerFile root page stem suffix = path :=
  List.mem_map.mp (mem_of_firstFile? found)

/-- Two endpoints have the same handler exactly if they are of one page and it is the file of a stem
that both may have. If they are not the same endpoint, the stem with the version is the same for both,
or it is the name of the first version of the other one. -/
theorem findHandler_eq_iff {workspace : Workspace} {root firstPath secondPath : Path}
    {first second : HandlerKey} (firstProper : first.IsProper) (secondProper : second.IsProper)
    (firstFound : first.find workspace root = .ok (some firstPath))
    (secondFound : second.find workspace root = .ok (some secondPath)) :
    (firstPath = secondPath ↔ first.page = second.page ∧
      ∃ stem, stem ∈ handlerStems first.name first.version ∧
        stem ∈ handlerStems second.name second.version ∧
        stemFile workspace root first.page stem = .ok (some firstPath) ∧
        stemFile workspace root second.page stem = .ok (some secondPath)) ∧
    (first ≠ second → firstPath = secondPath →
      first.stem = second.stem ∨ second.version = defaultVersion ∧ second.name = first.stem ∨
        first.version = defaultVersion ∧ first.name = second.stem) := by
  have shared : firstPath = secondPath → first.page = second.page ∧
      ∃ stem, stem ∈ handlerStems first.name first.version ∧
        stem ∈ handlerStems second.name second.version ∧
        stemFile workspace root first.page stem = .ok (some firstPath) ∧
        stemFile workspace root second.page stem = .ok (some secondPath) := by
    rintro rfl
    obtain ⟨stem, isStem, found⟩ := exists_stem_of_find firstFound
    obtain ⟨other, isOther, otherFound⟩ := exists_stem_of_find secondFound
    obtain ⟨suffix, known, path⟩ := exists_suffix_of_stemFile found
    obtain ⟨otherSuffix, otherKnown, otherPath⟩ := exists_suffix_of_stemFile otherFound
    obtain ⟨pages, rfl⟩ := eq_of_handlerFile firstProper.page secondProper.page
      (noSlash_of_mem_handlerStems firstProper isStem)
      (noSlash_of_mem_handlerStems secondProper isOther) known otherKnown
      (path.trans otherPath.symm)
    exact ⟨pages, stem, isStem, isOther, found, otherFound⟩
  refine ⟨⟨shared, ?_⟩, fun different same => ?_⟩
  · rintro ⟨pages, stem, -, -, found, otherFound⟩
    rw [pages, otherFound] at found
    exact (Option.some.inj (Except.ok.inj found)).symm
  · obtain ⟨pages, stem, isFirst, isSecond, -, -⟩ := shared same
    exact stems_of_common different pages isFirst isSecond

/-- A folder with the second version of the handler of an endpoint. -/
def exampleHandlers : Workspace where
  here := ["work".toList]
  nodes := [
    (["work".toList], .folder),
    (["work".toList, "src".toList], .folder),
    (["work".toList, "src".toList, "rooms".toList], .folder),
    (["work".toList, "src".toList, "rooms".toList, "_api".toList], .folder),
    (["work".toList, "src".toList, "rooms".toList, "_api".toList, "list_v2.ts".toList], .file [])]

theorem findHandler_eq_iff_example :
    let first : HandlerKey := ⟨"rooms".toList, "list".toList, "v2".toList⟩
    let second : HandlerKey := ⟨"rooms".toList, "list_v2".toList, "v1".toList⟩
    let path := Path.ofText "src/rooms/_api/list_v2.ts".toList
    first.find exampleHandlers (.ofText "src".toList) = .ok (some path) ∧
      second.find exampleHandlers (.ofText "src".toList) = .ok (some path) ∧
      (first.stem = second.stem ∨ second.version = defaultVersion ∧ second.name = first.stem ∨
        first.version = defaultVersion ∧ first.name = second.stem) ∧
      first.page = second.page ∧ ∃ stem, stem ∈ handlerStems first.name first.version ∧
        stem ∈ handlerStems second.name second.version ∧
        stemFile exampleHandlers (.ofText "src".toList) first.page stem = .ok (some path) ∧
        stemFile exampleHandlers (.ofText "src".toList) second.page stem = .ok (some path) := by
  intro first second path
  have firstFound : first.find exampleHandlers (.ofText "src".toList) = .ok (some path) := by
    decide +kernel
  have secondFound : second.find exampleHandlers (.ofText "src".toList) = .ok (some path) := by
    decide +kernel
  obtain ⟨shared, stems⟩ := findHandler_eq_iff (by decide) (by decide) firstFound secondFound
  exact ⟨firstFound, secondFound, stems (by decide) rfl, shared.mp rfl⟩

/-- The second version of one endpoint has the handler of another endpoint, whose name ends with that
version. -/
theorem not_findHandler_apart : ¬∀ (workspace : Workspace) (root firstPath secondPath : Path)
    (first second : HandlerKey), first.IsProper → second.IsProper → first ≠ second →
      first.find workspace root = .ok (some firstPath) →
      second.find workspace root = .ok (some secondPath) → firstPath ≠ secondPath := by
  intro apart
  exact apart exampleHandlers (.ofText "src".toList)
    (.ofText "src/rooms/_api/list_v2.ts".toList) (.ofText "src/rooms/_api/list_v2.ts".toList)
    ⟨"rooms".toList, "list".toList, "v2".toList⟩ ⟨"rooms".toList, "list_v2".toList, "v1".toList⟩
    (by decide) (by decide) (by decide) (by decide +kernel) (by decide +kernel) rfl

end RouteCatalog
