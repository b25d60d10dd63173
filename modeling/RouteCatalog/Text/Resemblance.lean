import RouteCatalog.Text.Basic

/-!
# Resemblance of texts

How much two texts have in common, and which of several words a misspelt one was probably meant to
be. Common characters are counted by runs: the longest run counts first, then those before it and
those behind it. `suggestions_subset` says that only candidates are suggested.
-/

namespace RouteCatalog

namespace Text

/-- The number of characters that two texts have in common at their beginnings. -/
def commonStart : (left right : Text) → Nat
  | first :: lefts, second :: rights =>
    if first = second then commonStart lefts rights + 1 else 0
  | _, _ => 0

/-- A run of characters that two texts have in common, and where it begins in each. -/
structure CommonRun where
  leftStart : Nat := 0
  rightStart : Nat := 0
  length : Nat := 0
  deriving DecidableEq, Repr

/-- The longer of two runs; of two equally long ones the first. -/
def CommonRun.longer (first second : CommonRun) : CommonRun :=
  if first.length < second.length then second else first

/-- The longest run that begins the first text and stands somewhere in the second; of several the
earliest. -/
def runFrom (left : Text) (leftStart : Nat) (right : Text) : CommonRun :=
  (List.range right.length).foldl
    (fun best rightStart =>
      best.longer { leftStart, rightStart, length := commonStart left (right.drop rightStart) })
    {}

/-- The longest run that two texts have in common; of several the earliest in the first text, and of
those the earliest in the second. -/
def longestRun (left right : Text) : CommonRun :=
  (List.range left.length).foldl
    (fun best leftStart => best.longer (runFrom (left.drop leftStart) leftStart right)) {}

/-- The number of characters in common. -/
def matched (left right : Text) : Nat :=
  if (longestRun left right).length = 0 ∨ left.length ≤ (longestRun left right).leftStart then 0
  else
    let run := longestRun left right
    run.length + matched (left.take run.leftStart) (right.take run.rightStart) +
      matched (left.drop (run.leftStart + run.length)) (right.drop (run.rightStart + run.length))
termination_by left.length
decreasing_by all_goals simp only [List.length_take, List.length_drop]; omega

/-- Of all characters of two texts the part that is common, as a fraction. -/
structure Likeness where
  common : Nat
  total : Nat
  deriving DecidableEq, Repr

/-- How much a word is like a candidate. -/
def likeness (word candidate : Text) : Likeness :=
  { common := 2 * matched candidate word, total := candidate.length + word.length }

/-- Is one fraction at most the other? -/
def Likeness.atMost (first second : Likeness) : Bool :=
  first.common * second.total ≤ second.common * first.total

/-- Words that are like one another have three fifths of their characters in common. -/
def leastLikeness : Likeness :=
  { common := 3, total := 5 }

/-- The most candidates that are named. -/
def maxSuggestions : Nat := 3

/-- Does the first candidate come before the second? The one that is more like the word does, and of
two equally like ones the later in the order of texts. -/
def suggestedBefore (word first second : Text) : Bool :=
  let ofFirst := likeness word first
  let ofSecond := likeness word second
  if ofFirst.atMost ofSecond then ofSecond.atMost ofFirst && precedesOrEq second first else true

/-- The candidates that a misspelt word is most like, in the order of texts. -/
def suggestions (word : Text) (candidates : List Text) : List Text :=
  let close := candidates.filter fun candidate => leastLikeness.atMost (likeness word candidate)
  ((close.mergeSort (suggestedBefore word)).take maxSuggestions).mergeSort precedesOrEq

/-- Only candidates are suggested. -/
theorem suggestions_subset {word suggestion : Text} {candidates : List Text}
    (suggested : suggestion ∈ suggestions word candidates) : suggestion ∈ candidates := by
  simp only [suggestions, List.mem_mergeSort] at suggested
  have sorted := List.mem_of_mem_take suggested
  rw [List.mem_mergeSort] at sorted
  exact (List.mem_filter.mp sorted).1

end Text

end RouteCatalog
