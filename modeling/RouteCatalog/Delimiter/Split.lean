import RouteCatalog.Delimiter.Scanner

/-!
# Splitting at top-level separators

`splitTopLevel` cuts a text at those separators that stand at top level. The separators are read
by the scanner like every other character and belong to no part. `join_splitTopLevel` states the
special case of one separator: the parts with the separator between them are the text again.
-/

namespace RouteCatalog

/-- The parts of a text between its top-level separators, for a scanner in any state. -/
def splitFrom (isSeparator : Char → Bool) (scanner : Scanner) : Text → List Text
  | [] => [[]]
  | character :: rest =>
    if isSeparator character && scanner.atTopLevel then
      [] :: splitFrom isSeparator (scanner.feed character) rest
    else
      (splitFrom isSeparator (scanner.feed character) rest).modifyHead (character :: ·)

/-- The parts of a text between its top-level separators. -/
def splitTopLevel (isSeparator : Char → Bool) (text : Text) : List Text :=
  splitFrom isSeparator .start text

/-- The separators of the rows of an object type or literal. -/
def isRowSeparator (character : Char) : Bool :=
  character == ',' || character == ';'

/-- The rows of the interior of an object type or literal. -/
def rows (interior : Text) : List Text :=
  splitTopLevel isRowSeparator interior

/-- There is always at least one part. -/
theorem splitFrom_ne_nil (isSeparator : Char → Bool) (scanner : Scanner) (text : Text) :
    splitFrom isSeparator scanner text ≠ [] := by
  induction text generalizing scanner with
  | nil => simp [splitFrom]
  | cons character rest inductionHypothesis =>
    simp only [splitFrom]
    split
    · simp
    · intro empty
      have lengths := congrArg List.length empty
      simp only [List.length_modifyHead, List.length_nil] at lengths
      exact inductionHypothesis _ (List.length_eq_zero_iff.mp lengths)

/-- Joining the parts with the one separator they were cut at gives the text back. -/
theorem join_splitTopLevel (separator : Char) (text : Text) :
    Text.join [separator] (splitTopLevel (· == separator) text) = text := by
  suffices general : ∀ scanner, Text.join [separator] (splitFrom (· == separator) scanner text) = text
    from general .start
  induction text with
  | nil => intro scanner; rfl
  | cons character rest inductionHypothesis =>
    intro scanner
    have remaining := inductionHypothesis (scanner.feed character)
    have nonempty := splitFrom_ne_nil (· == separator) (scanner.feed character) rest
    simp only [splitFrom]
    generalize splitFrom (· == separator) (scanner.feed character) rest = parts at remaining nonempty
    obtain ⟨first, others, rfl⟩ := List.exists_cons_of_ne_nil nonempty
    split
    · rename_i cut
      simp only [Bool.and_eq_true, beq_iff_eq] at cut
      simp [Text.join, cut.1, remaining]
    · cases others with
      | nil => simpa [Text.join] using remaining
      | cons second others => simpa [Text.join] using remaining

end RouteCatalog
