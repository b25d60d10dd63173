import RouteCatalog.Text.Basic

/-!
# Pieces between separators

The pieces of a text hold no separator, and those of two texts with a separator between them are those
of the one and of the other. The last separator of a text tells what is before and behind it.
-/

namespace RouteCatalog.Text

variable {text : Text}

/-- Two texts that end with a separator and something without it are the same only if what is before
and behind the separator is. -/
theorem eq_of_append_separator {separator : Char} {front back otherFront otherBack : Text}
    (absent : separator ∉ back) (otherAbsent : separator ∉ otherBack)
    (same : front ++ separator :: back = otherFront ++ separator :: otherBack) :
    front = otherFront ∧ back = otherBack := by
  -- A longer front would have the separator in what is behind it.
  have noLonger : ∀ {longer behind other : Text}, separator ∉ other →
      separator :: other = longer ++ separator :: behind → longer = [] := by
    intro longer behind other absent same
    cases longer with
    | nil => rfl
    | cons character longer =>
      obtain ⟨-, rfl⟩ := List.cons.inj same
      exact absurd (by simp) absent
  obtain ⟨longer, rfl, rest⟩ | ⟨longer, rfl, rest⟩ := List.append_eq_append_iff.mp same
  · obtain rfl := noLonger absent rest
    simpa using rest
  · obtain rfl := noLonger otherAbsent rest
    simpa using rest.symm

/-- A text without the separator that stands in two texts around one stands in one of the two. -/
theorem isInfix_of_not_mem {separator : Char} {part front back : Text} (absent : separator ∉ part)
    (inside : part <:+: front ++ separator :: back) : part <:+: front ∨ part <:+: back := by
  induction front with
  | nil =>
    rcases List.infix_cons_iff.mp inside with begins | later
    · cases part with
      | nil => exact .inl List.nil_infix
      | cons first rest =>
        obtain ⟨rfl, -⟩ := List.cons_prefix_cons.mp begins
        exact absurd List.mem_cons_self absent
    · exact .inr later
  | cons character rest inductionHypothesis =>
    rcases List.infix_cons_iff.mp inside with begins | later
    · refine .inl (List.IsPrefix.isInfix ?_)
      rcases List.prefix_or_prefix_of_prefix begins (List.prefix_append (character :: rest) _) with
        shorter | longer
      · exact shorter
      · obtain ⟨behind, rfl⟩ := longer
        cases behind with
        | nil => simp
        | cons next behind =>
          obtain ⟨rfl, -⟩ := List.cons_prefix_cons.mp
            ((List.prefix_append_right_inj (character :: rest)).mp begins)
          exact absurd (by simp) absent
    · exact (inductionHypothesis later).imp_left fun within =>
        within.trans (List.suffix_cons character rest).isInfix

/-- The pieces of two texts with a separator between them are those of the one and those of the
other. -/
theorem pieces_append (separator : Char) (front back : Text) :
    pieces separator (front ++ separator :: back) =
      pieces separator front ++ pieces separator back := by
  induction front with
  | nil => simp [pieces]
  | cons character rest inductionHypothesis =>
    obtain ⟨first, others, found⟩ := List.exists_cons_of_ne_nil (pieces_ne_nil separator rest)
    by_cases cut : character = separator <;> simp [pieces, cut, inductionHypothesis, found]

/-- No piece holds the separator. -/
theorem not_mem_of_mem_pieces {separator : Char} {piece : Text}
    (member : piece ∈ pieces separator text) : separator ∉ piece := by
  induction text generalizing piece with
  | nil => simp_all [pieces]
  | cons character rest inductionHypothesis =>
    obtain ⟨first, others, found⟩ := List.exists_cons_of_ne_nil (pieces_ne_nil separator rest)
    rw [found] at inductionHypothesis
    by_cases cut : character = separator
    · simp only [pieces, cut, if_true, found, List.mem_cons] at member
      rcases member with rfl | member
      · exact List.not_mem_nil
      · exact inductionHypothesis (List.mem_cons.mpr member)
    · simp only [pieces, cut, if_false, found, List.modifyHead_cons, List.mem_cons] at member
      rcases member with rfl | member
      · simpa [Ne.symm cut] using inductionHypothesis List.mem_cons_self
      · exact inductionHypothesis (List.mem_cons_of_mem first member)

/-- Joining two lists of parts joins each and then the two. -/
theorem join_append {separator : Text} {fronts backs : List Text} (frontParts : fronts ≠ [])
    (backParts : backs ≠ []) : join separator (fronts ++ backs) =
      join separator fronts ++ separator ++ join separator backs := by
  induction fronts with
  | nil => exact absurd rfl frontParts
  | cons first others inductionHypothesis =>
    cases others with
    | nil =>
      obtain ⟨next, rest, rfl⟩ := List.exists_cons_of_ne_nil backParts
      simp [join]
    | cons second others =>
      have rest := inductionHypothesis (by simp)
      simp only [List.cons_append] at rest
      simp [join, rest]

/-- A text is one piece, or ends with a piece behind a separator. -/
theorem exists_lastPiece (separator : Char) (text : Text) : ∃ piece, separator ∉ piece ∧
    (text = piece ∨ ∃ front, text = front ++ separator :: piece) := by
  induction text with
  | nil => exact ⟨[], by simp, .inl rfl⟩
  | cons character rest inductionHypothesis =>
    obtain ⟨piece, absent, rfl | ⟨front, rfl⟩⟩ := inductionHypothesis
    · by_cases cut : character = separator
      · exact ⟨rest, absent, .inr ⟨[], by rw [cut]; rfl⟩⟩
      · exact ⟨character :: rest, by simp [Ne.symm cut, absent], .inl rfl⟩
    · exact ⟨piece, absent, .inr ⟨character :: front, rfl⟩⟩

end RouteCatalog.Text
