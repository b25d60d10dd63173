import RouteCatalog.Layout
import RouteCatalog.Proofs.Text.Blank
import RouteCatalog.Proofs.Text.Pieces

/-!
# Tidied lines

Tidying takes the blanks off the end of every line and off both ends of the text. So blanks before a
line feed and blanks at the end have no part in what it leaves: `tidyLines_before_feed` and
`tidyLines_append_of_blank`.
-/

namespace RouteCatalog

namespace Text

variable {front back gap line text : Text}

/-- The lines of a text without the blanks at their ends. -/
def trimLines (text : Text) : Text :=
  join ['\n'] ((text.pieces '\n').map trimEnd)

/-- Each line is trimmed on its own. -/
theorem trimLines_append_feed (front back : Text) :
    trimLines (front ++ '\n' :: back) = trimLines front ++ '\n' :: trimLines back := by
  rw [trimLines, pieces_append, List.map_append, join_append (by simp [pieces_ne_nil])
    (by simp [pieces_ne_nil])]
  simp [trimLines]

theorem trimLines_of_line (noFeed : '\n' ∉ line) : trimLines line = line.trimEnd := by
  simp [trimLines, pieces_of_not_mem noFeed, join]

/-- Blanks at the end of the last line have no part in the trimmed lines. -/
theorem trimLines_append_of_blank (text : Text) (blank : gap.isBlankText = true)
    (noFeed : '\n' ∉ gap) : trimLines (text ++ gap) = trimLines text := by
  obtain ⟨line, lineNoFeed, rfl | ⟨front, rfl⟩⟩ := text.exists_lastPiece '\n'
  · have longer : '\n' ∉ text ++ gap := by simp [lineNoFeed, noFeed]
    rw [trimLines_of_line longer, trimLines_of_line lineNoFeed, trimEnd_append_of_blank blank]
  · have longer : '\n' ∉ line ++ gap := by simp [lineNoFeed, noFeed]
    rw [List.append_assoc, List.cons_append, trimLines_append_feed, trimLines_append_feed,
      trimLines_of_line longer, trimLines_of_line lineNoFeed, trimEnd_append_of_blank blank]

/-- Blanks behind a text, line feeds among them, leave nothing but blanks behind its trimmed lines. -/
theorem exists_trimLines_append (text : Text) (blank : gap.isBlankText = true) :
    ∃ left : Text, left.isBlankText = true ∧ trimLines (text ++ gap) = trimLines text ++ left := by
  induction gap using List.reverseRecOn with
  | nil => exact ⟨[], rfl, by simp⟩
  | append_singleton gap last inductionHypothesis =>
    rw [isBlankText_append, Bool.and_eq_true] at blank
    obtain ⟨left, leftBlank, same⟩ := inductionHypothesis blank.1
    by_cases feed : last = '\n'
    · subst feed
      refine ⟨left ++ ['\n'], by simp [leftBlank, blank.2], ?_⟩
      rw [← List.append_assoc, trimLines_append_feed, same]
      simp [trimLines, pieces, join, trimEnd]
    · refine ⟨left, leftBlank, ?_⟩
      rw [← List.append_assoc, trimLines_append_of_blank _ blank.2 (by simpa using Ne.symm feed), same]

end Text

variable {front back gap text : Text}

/-- Blanks before a line feed have no part in tidied lines. -/
theorem tidyLines_before_feed (front back : Text) (blank : gap.isBlankText = true)
    (noFeed : '\n' ∉ gap) :
    tidyLines (front ++ gap ++ '\n' :: back) = tidyLines (front ++ '\n' :: back) := by
  have same : Text.trimLines (front ++ gap ++ '\n' :: back) =
      Text.trimLines (front ++ '\n' :: back) := by
    rw [Text.trimLines_append_feed, Text.trimLines_append_feed,
      Text.trimLines_append_of_blank front blank noFeed]
  exact congrArg Text.trim same

/-- Blanks at the end have no part in tidied lines. -/
theorem tidyLines_append_of_blank (text : Text) (blank : gap.isBlankText = true) :
    tidyLines (text ++ gap) = tidyLines text := by
  obtain ⟨left, leftBlank, same⟩ := Text.exists_trimLines_append text blank
  have trimmed : (Text.trimLines (text ++ gap)).trim = (Text.trimLines text).trim := by
    rw [same, Text.trim_append_blank leftBlank]
  exact trimmed

end RouteCatalog
