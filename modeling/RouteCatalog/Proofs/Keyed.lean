import Mathlib.Data.List.Induction
import Mathlib.Data.List.Nodup
import RouteCatalog.Keyed

/-!
# Groups and entries in their order

What `grouped` and `collapse` come to, said without their accumulators. `byPage` is the catalog's
order: a page stands at the place of its first member and has its members in their own order.
`collapse_of_nodup` leaves entries alone whose keys are distinct, and `collapse_insert` those of other
keys.
-/

namespace RouteCatalog

variable {α : Type}

section Keys

variable {keys : List Text} {key : Text}

/-- One more key is kept if it is not there yet. -/
theorem eraseDups_concat :
    (keys ++ [key]).eraseDups = if key ∈ keys then keys.eraseDups else keys.eraseDups ++ [key] := by
  rw [List.eraseDups_append]
  by_cases known : key ∈ keys
  · simp [List.removeAll, known]
  · simp [List.removeAll, known, List.eraseDups_cons]

theorem nodup_eraseDups : keys.eraseDups.Nodup := by
  induction keys using List.reverseRecOn with
  | nil => exact List.nodup_nil
  | append_singleton keys key inductionHypothesis =>
    rw [eraseDups_concat]
    split
    · exact inductionHypothesis
    · rename_i absent
      refine List.nodup_append'.mpr ⟨inductionHypothesis, List.nodup_singleton key, ?_⟩
      simpa using fun member => absent (List.mem_eraseDups.mp member)

end Keys

section Groups

variable {page : α → Text} {members : List α} {member : α}

/-- Members under their pages: the pages in the order of their first members, the members of a page
in their own order. -/
def byPage (page : α → Text) (members : List α) : List (Text × List α) :=
  (members.map page).eraseDups.map fun key => (key, members.filter fun member => page member = key)

/-- A member goes to the group of its key, or opens it at the end. -/
theorem addTo_map {keys : List Text} {key : Text} (group : Text → List α) (distinct : keys.Nodup) :
    addTo key member (keys.map fun other => (other, group other)) =
      if key ∈ keys then
        keys.map fun other => (other, if other = key then group other ++ [member] else group other)
      else keys.map (fun other => (other, group other)) ++ [(key, [member])] := by
  induction keys with
  | nil => simp [addTo]
  | cons first keys inductionHypothesis =>
    obtain ⟨absent, distinct⟩ := List.nodup_cons.mp distinct
    by_cases same : first = key
    · subst same
      have others : keys.map (fun other => (other, group other)) = keys.map fun other =>
          (other, if other = first then group other ++ [member] else group other) := by
        refine List.map_congr_left fun other inKeys => ?_
        have different : other ≠ first := by
          rintro rfl
          exact absent inKeys
        rw [if_neg different]
      simp [addTo, others]
    · have different : key ≠ first := fun equal => same equal.symm
      rw [List.map_cons, addTo, if_neg same, inductionHypothesis distinct]
      split <;> simp_all

/-- Grouping members under their pages gives the pages in the order of their first members. -/
theorem grouped_eq_byPage :
    grouped (members.map fun member => (page member, member)) = byPage page members := by
  induction members using List.reverseRecOn with
  | nil => rfl
  | append_singleton members member inductionHypothesis =>
    have step : grouped ((members ++ [member]).map fun member => (page member, member)) =
        addTo (page member) member (byPage page members) := by
      rw [← inductionHypothesis]
      simp [grouped]
    rw [step, byPage, addTo_map _ nodup_eraseDups, byPage, List.map_append, List.map_singleton,
      eraseDups_concat]
    by_cases known : page member ∈ members.map page
    · rw [if_pos (List.mem_eraseDups.mpr known), if_pos known]
      refine List.map_congr_left fun key _ => ?_
      by_cases same : key = page member
      · simp [same]
      · simp [same, Ne.symm same]
    · have fresh : members.filter (fun other => page other = page member) = [] := by
        simpa using known
      rw [if_neg fun member => known (List.mem_eraseDups.mp member), if_neg known, List.map_append,
        List.map_singleton]
      congr 1
      · refine List.map_congr_left fun key inKeys => ?_
        have different : page member ≠ key := by
          rintro rfl
          exact known (List.mem_eraseDups.mp inKeys)
        simp [different]
      · simp [fresh]

/-- A new member makes one member more. -/
theorem length_flatMap_addTo (key : Text) (groups : List (Text × List α)) :
    ((addTo key member groups).flatMap Prod.snd).length =
      (groups.flatMap Prod.snd).length + 1 := by
  induction groups with
  | nil => rfl
  | cons group rest inductionHypothesis =>
    obtain ⟨present, held⟩ := group
    simp only [addTo]
    split
    · simp only [List.flatMap_cons, List.length_append, List.length_singleton]
      omega
    · simp only [List.flatMap_cons, List.length_append, inductionHypothesis]
      omega

/-- The groups have as many members as there were. -/
theorem length_flatMap_byPage :
    ((byPage page members).flatMap Prod.snd).length = members.length := by
  rw [← grouped_eq_byPage]
  induction members using List.reverseRecOn with
  | nil => rfl
  | append_singleton members member inductionHypothesis =>
    rw [List.length_append, ← inductionHypothesis, grouped, List.map_append, List.foldl_append]
    exact length_flatMap_addTo _ _

end Groups

section Entries

variable {entries settled : List (Text × α)}

/-- A new key comes last. -/
theorem put_of_not_mem {key : Text} {value : α} (absent : key ∉ entries.map Prod.fst) :
    put key value entries = entries ++ [(key, value)] := by
  induction entries with
  | nil => rfl
  | cons entry rest inductionHypothesis =>
    obtain ⟨present, held⟩ := entry
    rw [List.map_cons, List.mem_cons, not_or] at absent
    rw [put, if_neg (Ne.symm absent.1), inductionHypothesis absent.2]
    rfl

/-- Entries whose keys are distinct stay as they are. -/
theorem collapse_of_nodup (distinct : (entries.map Prod.fst).Nodup) :
    collapse entries = entries := by
  induction entries using List.reverseRecOn with
  | nil => rfl
  | append_singleton entries entry inductionHypothesis =>
    rw [List.map_append, List.nodup_append'] at distinct
    obtain ⟨front, -, apart⟩ := distinct
    have absent : entry.1 ∉ entries.map Prod.fst := fun member => apart member (by simp)
    have settled := inductionHypothesis front
    rw [collapse] at settled ⊢
    rw [List.foldl_append, settled, List.foldl_cons, List.foldl_nil, put_of_not_mem absent]

/-- Entries with one more behind them collapse to those before, with the one put to them. -/
theorem collapse_concat (entry : Text × α) :
    collapse (entries ++ [entry]) = put entry.1 entry.2 (collapse entries) := by
  rw [collapse, List.foldl_append, List.foldl_cons, List.foldl_nil, ← collapse]

theorem nodup_collapse : ((collapse entries).map Prod.fst).Nodup := by
  induction entries using List.reverseRecOn with
  | nil => exact List.nodup_nil
  | append_singleton entries entry inductionHypothesis =>
    rw [collapse_concat, keys_put]
    split
    · exact inductionHypothesis
    · rename_i absent
      exact List.nodup_append'.mpr
        ⟨inductionHypothesis, List.nodup_singleton _, by simpa using absent⟩

/-- Among distinct keys, what is there after one is put is that or was there under another key. -/
theorem eq_or_mem_of_mem_put {key : Text} {value : α} {entry : Text × α}
    (distinct : (entries.map Prod.fst).Nodup) (member : entry ∈ put key value entries) :
    entry = (key, value) ∨ entry ∈ entries ∧ entry.1 ≠ key := by
  induction entries with
  | nil => exact .inl (List.mem_singleton.mp member)
  | cons first rest inductionHypothesis =>
    obtain ⟨present, held⟩ := first
    obtain ⟨absent, distinct⟩ := List.nodup_cons.mp distinct
    by_cases same : present = key
    · subst same
      rw [put, if_pos rfl, List.mem_cons] at member
      refine member.imp_right fun inRest => ⟨List.mem_cons_of_mem _ inRest, ?_⟩
      have inKeys : entry.1 ∈ rest.map Prod.fst := List.mem_map_of_mem inRest
      intro same
      exact absent (same ▸ inKeys)
    · rw [put, if_neg same, List.mem_cons] at member
      obtain rfl | inRest := member
      · exact .inr ⟨List.mem_cons_self, same⟩
      · exact (inductionHypothesis distinct inRest).imp_right fun found =>
          ⟨List.mem_cons_of_mem _ found.1, found.2⟩

theorem lastOf?_concat (entry : Text × α) (key : Text) : lastOf? (entries ++ [entry]) key =
    if entry.1 = key then some entry.2 else lastOf? entries key := by
  simp only [lastOf?, firstOf?, List.reverse_append, List.reverse_singleton, List.singleton_append,
    List.find?_cons]
  by_cases same : entry.1 = key <;> simp [same]

/-- The value that is left of a key is its last one. -/
theorem lastOf?_of_mem_collapse {entry : Text × α} (member : entry ∈ collapse entries) :
    lastOf? entries entry.1 = some entry.2 := by
  induction entries using List.reverseRecOn with
  | nil => cases member
  | append_singleton entries last inductionHypothesis =>
    rw [collapse_concat] at member
    rw [lastOf?_concat]
    obtain rfl | ⟨earlier, other⟩ := eq_or_mem_of_mem_put nodup_collapse member
    · exact if_pos rfl
    · rw [if_neg (Ne.symm other), inductionHypothesis earlier]

/-- The last value of a key is in an entry. -/
theorem mem_of_lastOf? {key : Text} {value : α} (found : lastOf? entries key = some value) :
    (key, value) ∈ entries := by
  obtain ⟨entry, first, rfl⟩ := Option.map_eq_some_iff.mp found
  have same := List.find?_some first
  rw [decide_eq_true_eq] at same
  rw [← same]
  exact List.mem_reverse.mp (List.mem_of_find?_eq_some first)

/-- A key has no last value exactly if there is no entry with it. -/
theorem lastOf?_eq_none_iff {key : Text} :
    lastOf? entries key = none ↔ ∀ entry ∈ entries, entry.1 ≠ key := by
  simp [lastOf?, firstOf?]

theorem lastOf?_cons (entry : Text × α) (key : Text) : lastOf? (entry :: entries) key =
    (lastOf? entries key).or (if entry.1 = key then some entry.2 else none) := by
  simp only [lastOf?, firstOf?, List.reverse_cons, List.find?_append, List.find?_singleton,
    Option.map_or]
  by_cases same : entry.1 = key <;> simp [same]

/-- The last value of a key in two lists of entries is that in the second, if there is one. -/
theorem lastOf?_append (front back : List (Text × α)) (key : Text) :
    lastOf? (front ++ back) key = (lastOf? back key).or (lastOf? front key) := by
  simp only [lastOf?, firstOf?, List.reverse_append, List.find?_append, Option.map_or]

/-- Putting an entry leaves the values of all other keys. -/
theorem lastOf?_put_of_ne {key other : Text} {value : α} (different : key ≠ other) :
    lastOf? (put key value entries) other = lastOf? entries other := by
  induction entries with
  | nil => simp [put, lastOf?, firstOf?, different]
  | cons entry rest inductionHypothesis =>
    obtain ⟨present, held⟩ := entry
    by_cases same : present = key
    · simp [put, same, lastOf?_cons, different]
    · simp [put, same, lastOf?_cons, inductionHypothesis]

/-- The last value of a key is left of it. -/
theorem lastOf?_collapse (key : Text) : lastOf? (collapse entries) key = lastOf? entries key := by
  induction entries using List.reverseRecOn with
  | nil => rfl
  | append_singleton entries entry inductionHypothesis =>
    rw [lastOf?_concat]
    by_cases same : entry.1 = key
    · have kept : (entry.1, entry.2) ∈ collapse (entries ++ [entry]) := by
        have found := firstOf?_put entry.1 entry.2 (collapse entries)
        rw [← collapse_concat, firstOf?, Option.map_eq_some_iff] at found
        obtain ⟨member, first, value⟩ := found
        have key := List.find?_some first
        rw [decide_eq_true_eq] at key
        rw [← key, ← value]
        exact List.mem_of_find?_eq_some first
      rw [← collapse_of_nodup nodup_collapse] at kept
      rw [if_pos same, ← same, lastOf?_of_mem_collapse kept]
    · rw [if_neg same, collapse_concat, lastOf?_put_of_ne same, inductionHypothesis]

section Insertion

variable {front back : List (Text × α)} {entry : Text × α}

theorem lastOf?_insert_of_ne {key : Text} (other : entry.1 ≠ key) :
    lastOf? (front ++ entry :: back) key = lastOf? (front ++ back) key := by
  simp [lastOf?, firstOf?, List.find?_append, other]

/-- The value of a new key is found. -/
theorem lastOf?_insert (absent : lastOf? (front ++ back) entry.1 = none) :
    lastOf? (front ++ entry :: back) entry.1 = some entry.2 := by
  rw [lastOf?_eq_none_iff] at absent
  have behind : back.reverse.find? (·.1 = entry.1) = none := by
    simpa using fun key value member => absent (key, value) (by simp [member])
  simp [lastOf?, firstOf?, List.find?_append, behind]

/-- A key is put the same with or without an entry of another key. -/
theorem put_insert {key : Text} (value : α) (other : entry.1 ≠ key) :
    ∃ before behind, put key value (front ++ back) = before ++ behind ∧
      put key value (front ++ entry :: back) = before ++ entry :: behind := by
  induction front with
  | nil => exact ⟨[], put key value back, rfl, by simp [put, other]⟩
  | cons first rest inductionHypothesis =>
    obtain ⟨present, held⟩ := first
    by_cases same : present = key
    · exact ⟨(present, value) :: rest, back, by simp [put, same], by simp [put, same]⟩
    · obtain ⟨before, behind, without, withEntry⟩ := inductionHypothesis
      exact ⟨(present, held) :: before, behind, by simp [put, same, without],
        by simp [put, same, withEntry]⟩

/-- An entry of a new key collapses to itself, among what the others collapse to. -/
theorem collapse_insert (entry : Text × α) (absent : lastOf? (front ++ back) entry.1 = none) :
    ∃ before behind, collapse (front ++ back) = before ++ behind ∧
      collapse (front ++ entry :: back) = before ++ entry :: behind := by
  induction back using List.reverseRecOn with
  | nil =>
    have fresh : entry.1 ∉ (collapse front).map Prod.fst := by
      intro member
      obtain ⟨held, inFront, same⟩ := List.mem_map.mp member
      have found := lastOf?_of_mem_collapse inFront
      rw [same, ← List.append_nil front, absent] at found
      cases found
    exact ⟨collapse front, [], by simp, by rw [collapse_concat, put_of_not_mem fresh]⟩
  | append_singleton back last inductionHypothesis =>
    rw [← List.append_assoc, lastOf?_concat] at absent
    split at absent
    · cases absent
    · rename_i other
      obtain ⟨before, behind, without, withEntry⟩ := inductionHypothesis absent
      rw [← List.append_assoc, ← List.cons_append, ← List.append_assoc, collapse_concat,
        collapse_concat, without, withEntry]
      exact put_insert last.2 (Ne.symm other)

end Insertion

end Entries

end RouteCatalog
