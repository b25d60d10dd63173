/-!
# Steps that can fail

What is known of a sequence of steps that came to a result: each step did (`bind_eq_ok_iff`), and
for every result of a list there is the item that it comes from (`exists_of_mem_mapM`).
-/

namespace RouteCatalog

variable {α β ε : Type} {items : List α} {results : List β}

/-- What a reader makes of all items, it makes of one of them each. -/
theorem exists_of_mem_mapM? {reader : α → Option β} (read : items.mapM reader = some results)
    {result : β} (member : result ∈ results) : ∃ item ∈ items, reader item = some result := by
  induction items generalizing results with
  | nil =>
    obtain rfl : results = [] := by simpa using read.symm
    cases member
  | cons first rest inductionHypothesis =>
    simp only [List.mapM_cons, Option.bind_eq_bind, Option.bind_eq_some_iff, Option.pure_def,
      Option.some.injEq] at read
    obtain ⟨head, readFirst, tail, readRest, rfl⟩ := read
    obtain rfl | inTail := List.mem_cons.mp member
    · exact ⟨first, by simp, readFirst⟩
    · obtain ⟨item, inRest, made⟩ := inductionHypothesis readRest inTail
      exact ⟨item, by simp [inRest], made⟩

/-- A reader succeeds on all items exactly if it succeeds on each. -/
theorem isSome_mapM_iff {reader : α → Option β} :
    (items.mapM reader).isSome = true ↔ ∀ item ∈ items, (reader item).isSome = true := by
  induction items with
  | nil => simp
  | cons item rest inductionHypothesis =>
    rw [List.mapM_cons, List.forall_mem_cons, ← inductionHypothesis]
    cases reader item with
    | none => simp
    | some found => cases rest.mapM reader <;> simp

section Steps

variable {first : Except ε α} {second : α → Except ε β}

@[simp]
theorem ok_bind (made : α) : (Except.ok made >>= second) = second made :=
  rfl

@[simp]
theorem error_bind (fault : ε) : (Except.error fault >>= second) = .error fault :=
  rfl

/-- Two steps come to a result exactly if both do. -/
theorem bind_eq_ok_iff {result : β} :
    (first >>= second) = .ok result ↔ ∃ made, first = .ok made ∧ second made = .ok result := by
  cases first <;> simp

theorem pure_eq_ok_iff {made result : α} :
    (pure made : Except ε α) = .ok result ↔ made = result := by
  simp [pure, Except.pure]

section MapError

variable {ε' : Type} {translate : ε → ε'}

@[simp]
theorem mapError_ok (made : α) : (Except.ok made).mapError translate = .ok made :=
  rfl

@[simp]
theorem mapError_error (fault : ε) :
    (Except.error fault : Except ε α).mapError translate = .error (translate fault) :=
  rfl

theorem mapError_eq_ok_iff {result : α} :
    first.mapError translate = .ok result ↔ first = .ok result := by
  cases first <;> simp

end MapError

end Steps

section Sequences

variable {action other : α → Except ε β}

/-- What comes of all items, comes of one of them each. -/
theorem exists_of_mem_mapM (ran : items.mapM action = .ok results) {result : β}
    (member : result ∈ results) : ∃ item ∈ items, action item = .ok result := by
  induction items generalizing results with
  | nil =>
    rw [List.mapM_nil, pure_eq_ok_iff] at ran
    subst ran
    cases member
  | cons first rest inductionHypothesis =>
    simp only [List.mapM_cons, bind_eq_ok_iff, pure_eq_ok_iff] at ran
    obtain ⟨head, ranFirst, tail, ranRest, rfl⟩ := ran
    obtain rfl | inTail := List.mem_cons.mp member
    · exact ⟨first, by simp, ranFirst⟩
    · obtain ⟨item, inRest, made⟩ := inductionHypothesis ranRest inTail
      exact ⟨item, by simp [inRest], made⟩

/-- An action comes to results for all items exactly if it comes to one for each. -/
theorem exists_mapM_iff : (∃ results, items.mapM action = .ok results) ↔
    ∀ item ∈ items, ∃ result, action item = .ok result := by
  induction items with
  | nil => simp [pure, Except.pure]
  | cons first rest inductionHypothesis =>
    rw [List.forall_mem_cons, ← inductionHypothesis]
    simp only [List.mapM_cons, bind_eq_ok_iff, pure_eq_ok_iff]
    constructor
    · rintro ⟨_, head, ran, tail, ranRest, -⟩
      exact ⟨⟨head, ran⟩, tail, ranRest⟩
    · rintro ⟨⟨head, ran⟩, tail, ranRest⟩
      exact ⟨_, head, ran, tail, ranRest, rfl⟩

/-- Actions that agree on all items come to the same. -/
theorem mapM_congr_of_mem (agree : ∀ item ∈ items, action item = other item) :
    items.mapM action = items.mapM other := by
  induction items with
  | nil => rfl
  | cons first rest inductionHypothesis =>
    rw [List.mapM_cons, List.mapM_cons, agree first (by simp),
      inductionHypothesis fun item member => agree item (by simp [member])]

theorem forM_congr_of_mem {check checkOther : α → Except ε Unit}
    (agree : ∀ item ∈ items, check item = checkOther item) :
    forM items check = forM items checkOther := by
  induction items with
  | nil => rfl
  | cons first rest inductionHypothesis =>
    rw [List.forM_cons, List.forM_cons, agree first (by simp),
      inductionHypothesis fun item member => agree item (by simp [member])]

/-- All checks pass exactly if each does. -/
theorem forM_eq_ok_iff {check : α → Except ε Unit} :
    forM items check = .ok () ↔ ∀ item ∈ items, check item = .ok () := by
  induction items with
  | nil => simp [pure, Except.pure]
  | cons first rest inductionHypothesis =>
    rw [List.forM_cons, bind_eq_ok_iff, List.forall_mem_cons, inductionHypothesis]
    constructor
    · rintro ⟨⟨⟩, passed, others⟩
      exact ⟨passed, others⟩
    · rintro ⟨passed, others⟩
      exact ⟨(), passed, others⟩

end Sequences

end RouteCatalog
