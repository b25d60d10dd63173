import RouteCatalog.Proofs.Part
import RouteCatalog.Proofs.Sample.Short

/-!
# The branches of a type

How the branches of a type depend on the text around them.
-/

namespace RouteCatalog

/-- The branches among the parts between bars. -/
def branchesOf (parts : List Text) : List Text :=
  (parts.map Text.trim).filter fun branch => !branch.isEmpty

section Branches

variable {text front back : Text} {parts others : List Text}

theorem unionBranches_eq_branchesOf (text : Text) :
    unionBranches text = branchesOf (splitTopLevel (· == '|') text) :=
  rfl

@[simp]
theorem branchesOf_append : branchesOf (parts ++ others) = branchesOf parts ++ branchesOf others := by
  simp [branchesOf]

/-- A part of blanks is no branch. -/
theorem branchesOf_blank (blank : text.trim = []) : branchesOf [text] = [] := by
  simp [branchesOf, blank]

theorem branchesOf_single (nonempty : text.trim ≠ []) : branchesOf [text] = [text.trim] := by
  simp [branchesOf, nonempty]

theorem length_branchesOf_single_le (text : Text) : (branchesOf [text]).length ≤ 1 :=
  (List.length_filter_le _ _).trans (by simp)

/-- A text that is not split at bars is its only branch. -/
theorem unionBranches_of_whole (trimmed : IsTrimmed text)
    (whole : splitTopLevel (· == '|') text = [text]) : unionBranches text = [text] := by
  have nonempty : text.trim ≠ [] := by
    rw [trimmed.trim_eq]
    exact trimmed.nonempty
  rw [unionBranches_eq_branchesOf, whole, branchesOf_single nonempty, trimmed.trim_eq]

/-- Blanks around a type have no part in its branches. -/
theorem unionBranches_between (blankFront : front.isBlankText = true)
    (blankBack : back.isBlankText = true) : unionBranches (front ++ text ++ back) = unionBranches text := by
  have absent : back.all (fun character => !(character == '|')) = true := by
    refine List.all_eq_true.mpr fun character member => ?_
    have blank := List.all_eq_true.mp blankBack character member
    rw [Bool.not_eq_true', beq_eq_false_iff_ne]
    rintro rfl
    exact absurd blank (by decide)
  have part : IsPart (· == '|') front := .of_blank separatesParts_bar blankFront
  obtain ⟨init, last, found, longer⟩ := exists_splitFrom_append (· == '|') .start text
  have parts : splitTopLevel (· == '|') (front ++ text ++ back) =
      (init ++ [last ++ back]).modifyHead (front ++ ·) := by
    rw [List.append_assoc, splitTopLevel_append part.closed part.whole, splitTopLevel, longer back absent]
  have same : splitTopLevel (· == '|') text = init ++ [last] := found
  have trimmed : ((init ++ [last ++ back]).modifyHead (front ++ ·)).map Text.trim =
      (init ++ [last]).map Text.trim := by
    cases init <;> simp [Text.trim_blank_append blankFront, Text.trim_append_blank blankBack]
  rw [unionBranches, unionBranches, parts, same, trimmed]

theorem unionBranches_trim (text : Text) : unionBranches text.trim = unionBranches text := by
  obtain ⟨front, back, blankFront, blankBack, parts⟩ := text.exists_trimmed
  conv => rhs; rw [parts, ← List.append_assoc]
  exact (unionBranches_between blankFront blankBack).symm

/-- Empty brackets behind a type take no branch away. -/
theorem length_unionBranches_brackets (text : Text) :
    (unionBranches text).length ≤ (unionBranches (text ++ ['[', ']'])).length := by
  obtain ⟨init, last, found, longer⟩ := exists_splitFrom_append (· == '|') .start text
  have suffixed : (last ++ ['[', ']']).trim ≠ [] := by
    have brackets : IsTrimmed ['[', ']'] := .of_no_blank (by simp) (by decide)
    obtain ⟨gap, trimmed⟩ := brackets.exists_append_trim last
    rw [trimmed]
    simp
  have one := length_branchesOf_single_le last
  rw [unionBranches_eq_branchesOf, unionBranches_eq_branchesOf, splitTopLevel, splitTopLevel, found,
    longer _ (by decide), branchesOf_append, branchesOf_append, branchesOf_single suffixed]
  simpa using one

/-- A text that is split at bars has a first and a last part. -/
theorem exists_parts (cut : splitTopLevel (· == '|') text ≠ [text]) : ∃ first middle last,
    splitTopLevel (· == '|') text = first :: (middle ++ [last]) := by
  obtain ⟨first, rest, found⟩ := List.exists_cons_of_ne_nil (splitFrom_ne_nil (· == '|') .start text)
  rcases List.eq_nil_or_concat rest with rfl | ⟨middle, last, rfl⟩
  · obtain ⟨-, ⟨rfl, -⟩ | ⟨separator, behind, -, -, -, none⟩⟩ := splitFrom_eq_cons found
    · exact absurd found cut
    · exact absurd none.symm (splitFrom_ne_nil _ _ _)
  · exact ⟨first, middle, last, by rw [splitTopLevel, found, List.concat_eq_append]⟩

/-- A text that is split at bars but has no two branches has a bar at one of its ends. -/
theorem exists_bar_of_few (cut : splitTopLevel (· == '|') text ≠ [text])
    (few : (unionBranches text).length ≤ 1) :
    (∃ rest, text.trim = '|' :: rest) ∨ ∃ front, text.trim = front ++ ['|'] := by
  have bar : IsTrimmed ['|'] := .of_no_blank (by simp) (by decide)
  obtain ⟨first, middle, last, found⟩ := exists_parts cut
  by_cases firstBlank : first.trim = []
  · obtain ⟨-, ⟨-, none⟩ | ⟨separator, rest, rfl, separates, -, -⟩⟩ := splitFrom_eq_cons found
    · simp at none
    · obtain ⟨gap, trimmed⟩ := bar.exists_trim_append rest
      refine .inl ⟨gap ++ Text.trim rest, ?_⟩
      rw [Text.trim_blank_append (Text.trim_eq_nil_iff.mp firstBlank), beq_iff_eq.mp separates]
      exact trimmed
  · have lastBlank : last.trim = [] := by
      by_contra nonempty
      rw [unionBranches_eq_branchesOf, found, ← List.singleton_append, branchesOf_append,
        branchesOf_append, branchesOf_single firstBlank, branchesOf_single nonempty] at few
      simp only [List.length_append, List.length_singleton] at few
      omega
    have parts : splitFrom (· == '|') .start text = (first :: middle) ++ [last] := found
    rcases splitFrom_eq_concat parts with ⟨none, -⟩ | ⟨before, separator, rfl, separates⟩
    · cases none
    · obtain ⟨gap, trimmed⟩ := bar.exists_append_trim before
      refine .inr ⟨before.trim ++ gap, ?_⟩
      rw [List.append_cons, Text.trim_append_blank (Text.trim_eq_nil_iff.mp lastBlank),
        beq_iff_eq.mp separates, trimmed, List.append_assoc]

end Branches

end RouteCatalog
