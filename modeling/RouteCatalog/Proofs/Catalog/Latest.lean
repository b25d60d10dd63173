import Mathlib.Data.Char
import Mathlib.Data.List.Lex
import Mathlib.Data.Prod.Lex
import RouteCatalog.Proofs.Command.Reported
import RouteCatalog.Proofs.Number.Digits

/-!
# The latest of several versions

The keys of versions are in a linear order (`VersionKey.precedesOrEq_iff_le`), and of several signatures
the first of those with the greatest key is looked up (`findLatest_eq_some_iff`). The key holds the whole
version, so signatures with equal keys have equal versions: looking for that version gives the same
signature, and the version does not depend on the order in which the signatures stand
(`latest_coherent`).
-/

namespace RouteCatalog

/-- Texts are in lexicographic order. -/
theorem Text.precedesOrEq_iff_le {left right : Text} :
    Text.precedesOrEq left right = true ↔ left ≤ right := by
  rw [← not_lt]
  induction left generalizing right with
  | nil => simp [precedesOrEq]
  | cons first lefts inductionHypothesis =>
    cases right with
    | nil => simp [precedesOrEq]
    | cons second rights =>
      rw [precedesOrEq, List.cons_lt_cons_iff, not_or]
      by_cases same : first = second
      · simp [same, inductionHypothesis]
      · have ordered : first.toNat < second.toNat ↔ ¬second < first :=
          (lt_iff_le_and_ne.trans (and_iff_left same)).trans not_lt.symm
        simp [same, Ne.symm same, ordered]

namespace VersionKey

/-- The number decides, and then the text. -/
def toPair (key : VersionKey) : Nat ×ₗ Text :=
  toLex (key.number, key.version)

theorem toPair_injective : Function.Injective toPair := by
  rintro ⟨number, version⟩ ⟨otherNumber, otherVersion⟩ same
  simpa [toPair] using same

instance : LinearOrder VersionKey :=
  LinearOrder.lift' toPair toPair_injective

variable {left right : VersionKey}

theorem le_iff : left ≤ right ↔
    left.number < right.number ∨ left.number = right.number ∧ left.version ≤ right.version :=
  Prod.Lex.toLex_le_toLex

/-- Keys are compared in their linear order. -/
theorem precedesOrEq_iff_le : left.precedesOrEq right = true ↔ left ≤ right := by
  simp [precedesOrEq, le_iff, Text.precedesOrEq_iff_le]

/-- The key of a version whose first number is not too long. -/
def known (version : Text) : VersionKey where
  number := digitsValue (leadingDigits (version.dropWhile fun character => !isDigit character))
  version := version

theorem ofVersion_eq_known {version : Text} (short : HasShortKey version) :
    ofVersion version = .ok (known version) := by
  unfold HasShortKey at short
  simp [ofVersion, known, Nat.not_lt.mpr short]

end VersionKey

section Greatest

variable {α β : Type} {key : α → VersionKey} {items : List α} {item : α}

/-- The item has the greatest key, and none before it has the same key. -/
def IsFirstGreatest (key : α → VersionKey) (items : List α) (item : α) : Prop :=
  ∃ front back, items = front ++ item :: back ∧ (∀ other ∈ front, key other < key item) ∧
    ∀ other ∈ back, key other ≤ key item

namespace IsFirstGreatest

theorem mem (greatest : IsFirstGreatest key items item) : item ∈ items := by
  obtain ⟨front, back, rfl, -, -⟩ := greatest
  simp

theorem le (greatest : IsFirstGreatest key items item) : ∀ other ∈ items, key other ≤ key item := by
  obtain ⟨front, back, rfl, before, behind⟩ := greatest
  intro other member
  rcases List.mem_append.mp member with inFront | member
  · exact (before other inFront).le
  · rcases List.mem_cons.mp member with rfl | inBack
    · exact le_rfl
    · exact behind other inBack

/-- The item is still the first when others are left out. -/
theorem filter {keeps : α → Bool} (greatest : IsFirstGreatest key items item)
    (kept : keeps item = true) : IsFirstGreatest key (items.filter keeps) item := by
  obtain ⟨front, back, rfl, before, behind⟩ := greatest
  refine ⟨front.filter keeps, back.filter keeps, by simp [kept], ?_, ?_⟩
  · exact fun other member => before other (List.mem_of_mem_filter member)
  · exact fun other member => behind other (List.mem_of_mem_filter member)

/-- There is only one such item. -/
theorem unique {other : α} (greatest : IsFirstGreatest key items item)
    (otherGreatest : IsFirstGreatest key items other) : item = other := by
  have found : ∀ {item : α}, IsFirstGreatest key items item →
      items.find? (fun candidate => key item ≤ key candidate) = some item := by
    rintro item ⟨front, back, parts, before, -⟩
    exact List.find?_eq_some_iff_append.mpr ⟨by simp, front, back, parts, by simpa using before⟩
  have sameKey : key item = key other :=
    le_antisymm (otherGreatest.le item greatest.mem) (greatest.le other otherGreatest.mem)
  have same := found greatest
  rw [sameKey, found otherGreatest] at same
  exact (Option.some.inj same).symm

/-- One more item takes the place of the first if its key is greater. -/
theorem concat (greatest : IsFirstGreatest key items item) (last : α) :
    IsFirstGreatest key (items ++ [last]) (if key last ≤ key item then item else last) := by
  split
  · rename_i covered
    obtain ⟨front, back, rfl, before, behind⟩ := greatest
    refine ⟨front, back ++ [last], by simp, before, fun other member => ?_⟩
    rcases List.mem_append.mp member with inBack | member
    · exact behind other inBack
    · rwa [List.mem_singleton.mp member]
  · rename_i greater
    exact ⟨items, [], rfl, fun other member => (greatest.le other member).trans_lt (not_le.mp greater),
      by simp⟩

end IsFirstGreatest

/-- What is found among some items with their keys is the first with the greatest key. -/
theorem exists_latestOf?_map (key : α → VersionKey) (nonempty : items ≠ []) :
    ∃ item, latestOf? (items.map fun item => (key item, item)) = some item ∧
      IsFirstGreatest key items item := by
  obtain ⟨first, rest, rfl⟩ := List.exists_cons_of_ne_nil nonempty
  suffices folded : ∃ item, (rest.map fun item => (key item, item)).foldl
      (fun best item => if item.1.precedesOrEq best.1 then best else item) (key first, first) =
        (key item, item) ∧ IsFirstGreatest key (first :: rest) item by
    obtain ⟨item, same, greatest⟩ := folded
    exact ⟨item, by simp [latestOf?, same], greatest⟩
  -- On the items already compared: the best of them is the first with the greatest key.
  induction rest using List.reverseRecOn with
  | nil => exact ⟨first, rfl, [], [], rfl, by simp, by simp⟩
  | append_singleton rest last inductionHypothesis =>
    obtain ⟨item, same, greatest⟩ := inductionHypothesis (by simp)
    refine ⟨_, ?_, greatest.concat last⟩
    rw [List.map_append, List.foldl_append, same]
    simp only [List.map_cons, List.map_nil, List.foldl_cons, List.foldl_nil,
      VersionKey.precedesOrEq_iff_le]
    split <;> rfl

end Greatest

section Lookup

variable {α : Type} {target : α → CallTarget} {name version : Text} {version? : Option Text}
variable {entries : List α} {latest : α}

/-- The entries of a name, and of a version if it is given. -/
def candidates (target : α → CallTarget) (name : Text) (version? : Option Text) (entries : List α) :
    List α :=
  entries.filter fun entry => (target entry).name = name &&
    match version? with
    | none => true
    | some version => (target entry).version = version

theorem mem_candidates_none_iff {entry : α} :
    entry ∈ candidates target name none entries ↔ entry ∈ entries ∧ (target entry).name = name := by
  simp [candidates]

/-- The entries of a version are among those of the name. -/
theorem candidates_some : candidates target name (some version) entries =
    (candidates target name none entries).filter fun entry => (target entry).version = version := by
  simp [candidates, List.filter_filter, Bool.and_comm]

/-- If the keys of all candidates are known, the candidates are compared by them. -/
theorem findLatest_eq (short : ∀ entry ∈ candidates target name version? entries,
    HasShortKey (target entry).version) : findLatest target name version? entries =
      .ok (latestOf? ((candidates target name version? entries).map fun entry =>
        (VersionKey.known (target entry).version, entry))) := by
  have keyed : (candidates target name version? entries).mapM (fun entry => do
      return (← VersionKey.ofVersion (target entry).version, entry)) =
        (.ok ((candidates target name version? entries).map fun entry =>
          (VersionKey.known (target entry).version, entry)) : Except NumberTooLong _) := by
    refine (mapM_congr_of_mem fun entry member => ?_).trans List.mapM_pure
    rw [VersionKey.ofVersion_eq_known (short entry member)]
    rfl
  unfold findLatest
  exact bind_eq_ok_iff.mpr ⟨_, keyed, rfl⟩

/-- The first candidate with the greatest key is found, and no other. -/
theorem findLatest_eq_some_iff (short : ∀ entry ∈ candidates target name version? entries,
    HasShortKey (target entry).version) : findLatest target name version? entries = .ok (some latest) ↔
      IsFirstGreatest (fun entry => VersionKey.known (target entry).version)
        (candidates target name version? entries) latest := by
  rw [findLatest_eq short, Except.ok.injEq]
  by_cases empty : candidates target name version? entries = []
  · rw [empty]
    exact ⟨nofun, fun greatest => absurd greatest.mem List.not_mem_nil⟩
  · obtain ⟨item, found, greatest⟩ :=
      exists_latestOf?_map (fun entry => VersionKey.known (target entry).version) empty
    rw [found, Option.some.injEq]
    exact ⟨fun same => same ▸ greatest, greatest.unique⟩

/-- Nothing is found exactly if there are no candidates. -/
theorem findLatest_eq_none_iff (short : ∀ entry ∈ candidates target name version? entries,
    HasShortKey (target entry).version) :
    findLatest target name version? entries = .ok none ↔ candidates target name version? entries = [] := by
  constructor
  · intro missing
    by_contra nonempty
    obtain ⟨latest, -, greatest⟩ :=
      exists_latestOf?_map (fun entry => VersionKey.known (target entry).version) nonempty
    rw [(findLatest_eq_some_iff short).mpr greatest] at missing
    cases missing
  · intro empty
    rw [findLatest_eq short, empty]
    rfl

end Lookup

section Coherence

variable {α : Type} {target : α → CallTarget} {name version : Text} {entries : List α} {latest : α}

/-- The version is `v` with a decimal number in ASCII. -/
def IsNumbered (version : Text) (number : Nat) : Prop :=
  ∃ digits : Text, digits ≠ [] ∧ (∀ character ∈ digits, character.isDigit = true) ∧
    version = 'v' :: digits ∧ Nat.ofDigitChars 10 digits 0 = number

/-- The first number in such a version is that number. -/
theorem IsNumbered.number_known {number : Nat} (numbered : IsNumbered version number) :
    (VersionKey.known version).number = number := by
  obtain ⟨digits, nonempty, all, rfl, rfl⟩ := numbered
  have known : ∀ character ∈ digits, isDigit character = true := fun character member => by
    simp [isDigit, digitValue?_of_isDigit (all character member)]
  have start : ('v' :: digits).dropWhile (fun character => !isDigit character) = digits := by
    obtain ⟨first, rest, rfl⟩ := List.exists_cons_of_ne_nil nonempty
    have noDigit : isDigit 'v' = false := by decide
    simp [noDigit, known first]
  rw [VersionKey.known, start, leadingDigits, List.takeWhile_eq_self_iff.mpr known,
    filterMap_digitValue? all, digitsValue, List.foldl_map]
  rfl

/-- The entry is one of the name, and none of the name has a greater version. Where the versions are
numbered, none has a greater number. -/
structure IsLatest (target : α → CallTarget) (name : Text) (entries : List α) (latest : α) : Prop where
  member : latest ∈ entries
  named : (target latest).name = name
  greatest : ∀ entry ∈ entries, (target entry).name = name → ∃ lesser greater,
    VersionKey.ofVersion (target entry).version = .ok lesser ∧
      VersionKey.ofVersion (target latest).version = .ok greater ∧ lesser ≤ greater
  numbered : (∀ entry ∈ entries, (target entry).name = name →
      ∃ number, IsNumbered (target entry).version number) →
    ∃ greatest, IsNumbered (target latest).version greatest ∧
      ∀ entry ∈ entries, (target entry).name = name →
        ∀ number, IsNumbered (target entry).version number → number ≤ greatest

/-- Looking a name up gives nothing exactly if no entry has the name, and otherwise a latest one. That one
is also found under its own version, and whatever order the entries are in, one of its version is. -/
structure LooksUpLatest (target : α → CallTarget) (entriesOf : Catalog → List α)
    (find : Catalog → (version? : Option Text) → Except NumberTooLong (Option α)) (name : Text)
    (catalog : Catalog) : Prop where
  missing : find catalog none = .ok none ↔ ∀ entry ∈ entriesOf catalog, (target entry).name ≠ name
  found : (∃ entry ∈ entriesOf catalog, (target entry).name = name) →
    ∃ latest, find catalog none = .ok (some latest) ∧
      IsLatest target name (entriesOf catalog) latest ∧
      find catalog (some (target latest).version) = .ok (some latest) ∧
      ∀ other, (entriesOf other).Perm (entriesOf catalog) →
        ∃ moved, find other none = .ok (some moved) ∧ (target moved).version = (target latest).version

/-- The first candidate with the greatest key is a latest entry. -/
theorem IsFirstGreatest.isLatest
    (short : ∀ entry ∈ entries, (target entry).name = name → HasShortKey (target entry).version)
    (first : IsFirstGreatest (fun entry => VersionKey.known (target entry).version)
      (candidates target name none entries) latest) : IsLatest target name entries latest := by
  obtain ⟨member, named⟩ := mem_candidates_none_iff.mp first.mem
  have greatest : ∀ entry ∈ entries, (target entry).name = name →
      VersionKey.known (target entry).version ≤ VersionKey.known (target latest).version :=
    fun entry inEntries same => first.le entry (mem_candidates_none_iff.mpr ⟨inEntries, same⟩)
  refine ⟨member, named, fun entry inEntries same => ?_, fun numbered => ?_⟩
  · exact ⟨_, _, VersionKey.ofVersion_eq_known (short entry inEntries same),
      VersionKey.ofVersion_eq_known (short latest member named), greatest entry inEntries same⟩
  · obtain ⟨number, isNumber⟩ := numbered latest member named
    refine ⟨number, isNumber, fun entry inEntries same other isOther => ?_⟩
    rw [← isNumber.number_known, ← isOther.number_known]
    rcases VersionKey.le_iff.mp (greatest entry inEntries same) with less | ⟨equal, -⟩
    · exact less.le
    · exact equal.le

/-- Entries that differ in their order only have latest entries of one version. -/
theorem IsFirstGreatest.version_eq_of_perm {others : List α} {moved : α} (same : others.Perm entries)
    (first : IsFirstGreatest (fun entry => VersionKey.known (target entry).version)
      (candidates target name none entries) latest)
    (firstMoved : IsFirstGreatest (fun entry => VersionKey.known (target entry).version)
      (candidates target name none others) moved) :
    (target moved).version = (target latest).version := by
  have permuted : (candidates target name none others).Perm (candidates target name none entries) :=
    same.filter _
  have sameKey : VersionKey.known (target moved).version = VersionKey.known (target latest).version :=
    le_antisymm (first.le moved (permuted.mem_iff.mp firstMoved.mem))
      (firstMoved.le latest (permuted.mem_iff.mpr first.mem))
  exact congrArg VersionKey.version sameKey

/-- Entries whose versions can be compared are looked up coherently. -/
theorem looksUpLatest_of_short (entriesOf : Catalog → List α) {catalog : Catalog}
    (short : ∀ entry ∈ entriesOf catalog, HasShortKey (target entry).version) (name : Text) :
    LooksUpLatest target entriesOf
      (fun catalog version? => findLatest target name version? (entriesOf catalog)) name catalog := by
  have shortCandidates : ∀ {others : List α} {version? : Option Text}, others.Perm (entriesOf catalog) →
      ∀ entry ∈ candidates target name version? others, HasShortKey (target entry).version :=
    fun same entry member => short entry (same.mem_iff.mp (List.mem_of_mem_filter member))
  refine ⟨?_, fun ⟨entry, inEntries, named⟩ => ?_⟩
  · rw [findLatest_eq_none_iff (shortCandidates (.refl _)), List.eq_nil_iff_forall_not_mem]
    simp only [mem_candidates_none_iff, not_and, ne_eq]
  · have nonempty : ∀ {others : List α}, others.Perm (entriesOf catalog) →
        candidates target name none others ≠ [] := fun same =>
      List.ne_nil_of_mem (mem_candidates_none_iff.mpr ⟨same.mem_iff.mpr inEntries, named⟩)
    obtain ⟨latest, -, first⟩ := exists_latestOf?_map
      (fun entry => VersionKey.known (target entry).version) (nonempty (.refl _))
    refine ⟨latest, (findLatest_eq_some_iff (shortCandidates (.refl _))).mpr first,
      first.isLatest fun entry inEntries _ => short entry inEntries, ?_, fun other same => ?_⟩
    · rw [findLatest_eq_some_iff (shortCandidates (.refl _)), candidates_some]
      exact first.filter (by simp)
    · obtain ⟨moved, -, firstMoved⟩ := exists_latestOf?_map
        (fun entry => VersionKey.known (target entry).version) (nonempty same)
      exact ⟨moved, (findLatest_eq_some_iff (shortCandidates same)).mpr firstMoved,
        first.version_eq_of_perm same firstMoved⟩

end Coherence

/-- The endpoints of a page. -/
def Catalog.endpointsOf (page : Text) (catalog : Catalog) : List Endpoint :=
  (firstOf? catalog.endpoints page).getD []

/-- The broadcasts of a page. -/
def Catalog.broadcastsOf (page : Text) (catalog : Catalog) : List Broadcast :=
  (firstOf? catalog.broadcasts page).getD []

/-- No run of digits in the versions of the catalog is too long. -/
structure Catalog.HasShortVersions (catalog : Catalog) : Prop where
  endpoints : ∀ page ∈ catalog.endpoints, ∀ endpoint ∈ page.2, HasShortNumbers endpoint.version
  broadcasts : ∀ page ∈ catalog.broadcasts, ∀ broadcast ∈ page.2, HasShortNumbers broadcast.version

/-- Endpoints and broadcasts are looked up coherently, on every page and for every name. -/
theorem latest_coherent {catalog : Catalog} (short : catalog.HasShortVersions) (page name : Text) :
    LooksUpLatest Endpoint.target (Catalog.endpointsOf page)
        (fun catalog => catalog.findEndpoint page name) name catalog ∧
      LooksUpLatest Broadcast.target (Catalog.broadcastsOf page)
        (fun catalog => catalog.findBroadcast page name) name catalog := by
  constructor
  · refine looksUpLatest_of_short (Catalog.endpointsOf page) (fun endpoint member => ?_) name
    obtain ⟨found, inPages, inPage⟩ := exists_page_of_mem member
    exact (short.endpoints found inPages endpoint inPage).hasShortKey
  · refine looksUpLatest_of_short (Catalog.broadcastsOf page) (fun broadcast member => ?_) name
    obtain ⟨found, inPages, inPage⟩ := exists_page_of_mem member
    exact (short.broadcasts found inPages broadcast inPage).hasShortKey

/-- Versions in which the order of texts is not that of numbers, one of them twice, two with equal numbers,
and an entry of another name. -/
def versionedCatalog : Catalog where
  endpoints := [("settings".toList,
    ["v2", "v10", "v1", "v010", "v10"].map (fun version =>
      { page := "settings".toList, name := "updateUser".toList, version := version.toList }) ++
    [{ page := "settings".toList, name := "removeUser".toList, version := "v11".toList }])]
  broadcasts := [("examples".toList,
    [{ page := "examples".toList, name := "updateCounter".toList, version := "beta".toList }])]

theorem latest_coherent_versioned : versionedCatalog.HasShortVersions ∧
    LooksUpLatest Endpoint.target (Catalog.endpointsOf "settings".toList)
      (fun catalog => catalog.findEndpoint "settings".toList "updateUser".toList) "updateUser".toList
      versionedCatalog ∧
    LooksUpLatest Broadcast.target (Catalog.broadcastsOf "examples".toList)
      (fun catalog => catalog.findBroadcast "examples".toList "updateCounter".toList)
      "updateCounter".toList versionedCatalog ∧
    (versionedCatalog.findEndpoint "settings".toList "updateUser".toList none).map
      (fun found => found.map Endpoint.version) = .ok (some "v10".toList) := by
  have endpoints : ∀ page ∈ versionedCatalog.endpoints, ∀ endpoint ∈ page.2,
      endpoint.version.length ≤ maxIntegerDigits := by decide
  have broadcasts : ∀ page ∈ versionedCatalog.broadcasts, ∀ broadcast ∈ page.2,
      broadcast.version.length ≤ maxIntegerDigits := by decide
  have short : versionedCatalog.HasShortVersions :=
    ⟨fun page inPages endpoint inPage => .of_length (endpoints page inPages endpoint inPage),
      fun page inPages broadcast inPage => .of_length (broadcasts page inPages broadcast inPage)⟩
  exact ⟨short, (latest_coherent short _ _).1, (latest_coherent short _ _).2, by decide⟩

end RouteCatalog
