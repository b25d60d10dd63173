/-!
# Texts

A text is the list of its characters, so every reader and writer of this library is a function
by recursion on characters. Nothing here depends on what the characters mean.
-/

namespace RouteCatalog

/-- A text, character by character. -/
abbrev Text := List Char

namespace Text

/-- The parts one after another with `separator` between neighbours. -/
def join (separator : Text) : List Text → Text
  | [] => []
  | [part] => part
  | part :: next :: rest => part ++ separator ++ join separator (next :: rest)

/-- The pieces between the occurrences of one character; a text without it is one piece. -/
def pieces (separator : Char) : Text → List Text
  | [] => [[]]
  | character :: rest =>
    if character = separator then [] :: pieces separator rest
    else (pieces separator rest).modifyHead (character :: ·)

/-- There is always at least one piece. -/
theorem pieces_ne_nil (separator : Char) (text : Text) : pieces separator text ≠ [] := by
  induction text with
  | nil => simp [pieces]
  | cons character rest inductionHypothesis =>
    simp only [pieces]
    split
    · simp
    · obtain ⟨first, others, found⟩ := List.exists_cons_of_ne_nil inductionHypothesis
      simp [found]

/-- Joining the pieces gives the text back. -/
theorem join_pieces (separator : Char) (text : Text) :
    join [separator] (pieces separator text) = text := by
  induction text with
  | nil => rfl
  | cons character rest inductionHypothesis =>
    obtain ⟨first, others, found⟩ := List.exists_cons_of_ne_nil (pieces_ne_nil separator rest)
    rw [found] at inductionHypothesis
    by_cases cut : character = separator
    · simp [pieces, cut, found, join, inductionHypothesis]
    · cases others with
      | nil => simpa [pieces, cut, found, join] using inductionHypothesis
      | cons second others => simpa [pieces, cut, found, join] using inductionHypothesis

/-- A text without the separator is one piece. -/
theorem pieces_of_not_mem {separator : Char} {text : Text} (absent : separator ∉ text) :
    pieces separator text = [text] := by
  induction text with
  | nil => rfl
  | cons character rest inductionHypothesis =>
    simp only [List.mem_cons, not_or] at absent
    simp [pieces, Ne.symm absent.1, inductionHypothesis absent.2]

/-- What follows `opening` in a text that begins with it. -/
def after? : (opening text : Text) → Option Text
  | [], text => some text
  | _ :: _, [] => none
  | expected :: opening, character :: rest =>
    if expected = character then after? opening rest else none

/-- Something follows an opening exactly in the texts that consist of the two. -/
theorem after?_eq_some_iff {opening text following : Text} :
    after? opening text = some following ↔ text = opening ++ following := by
  induction opening generalizing text with
  | nil => simp [after?]
  | cons expected opening inductionHypothesis =>
    cases text with
    | nil => simp [after?]
    | cons character rest =>
      simp only [after?, List.cons_append, List.cons.injEq]
      split
      · rename_i same
        simp [inductionHypothesis, same]
      · rename_i different
        simp [Ne.symm different]

/-- The text before the first occurrence of `needle` and the text after it. -/
def breakAt? (needle : Text) : Text → Option (Text × Text)
  | [] => if needle.isEmpty then some ([], []) else none
  | character :: rest =>
    match after? needle (character :: rest) with
    | some following => some ([], following)
    | none => (breakAt? needle rest).map fun (before, following) => (character :: before, following)

/-- The answer of `reader` at the earliest place of the text where it has one. -/
def firstMatch {α : Type} (reader : Text → Option α) : Text → Option α
  | [] => reader []
  | character :: rest =>
    match reader (character :: rest) with
    | some found => some found
    | none => firstMatch reader rest

/-- The text with every occurrence of one character replaced by a text. -/
def replace (text : Text) (character : Char) (replacement : Text) : Text :=
  text.flatMap fun each => if each = character then replacement else [each]

/-- Order by code points, the first difference deciding and a proper beginning coming first. -/
def precedesOrEq : Text → Text → Bool
  | [], _ => true
  | _ :: _, [] => false
  | left :: lefts, right :: rights =>
    if left = right then precedesOrEq lefts rights else left.toNat < right.toNat

/-- Does the text end with `ending`? -/
def endsWith (text ending : Text) : Bool :=
  ending.isSuffixOf text

/-- The text without its last `ending`, if it has that ending. -/
def dropEnding? (text ending : Text) : Option Text :=
  if text.endsWith ending then some (text.take (text.length - ending.length)) else none

/-- A text without its ending is what stands before the ending. -/
theorem dropEnding?_eq_some_iff {text ending front : Text} :
    dropEnding? text ending = some front ↔ text = front ++ ending := by
  simp only [dropEnding?, endsWith, List.isSuffixOf_iff_suffix]
  constructor
  · intro found
    split at found
    · rename_i suffix
      obtain ⟨before, rfl⟩ := suffix
      have kept : before = front := by simpa using found
      rw [kept]
    · cases found
  · rintro rfl
    simp

/-- The interior of a text whose first and last characters are the same mark from `marks`. -/
def unwrapMarks? (marks : List Char) : Text → Option Text
  | [] => none
  | opening :: rest =>
    if marks.contains opening && rest.getLast? == some opening then some rest.dropLast else none

/-- The interior is what stands between two equal marks. -/
theorem unwrapMarks?_eq_some_iff {marks : List Char} {text inside : Text} :
    unwrapMarks? marks text = some inside ↔
      ∃ mark, mark ∈ marks ∧ text = mark :: (inside ++ [mark]) := by
  cases text with
  | nil => simp [unwrapMarks?]
  | cons opening rest =>
    simp only [unwrapMarks?, Bool.and_eq_true, List.contains_iff_mem, beq_iff_eq,
      List.cons.injEq]
    constructor
    · intro found
      split at found
      · rename_i marked
        cases found
        refine ⟨opening, marked.1, rfl, ?_⟩
        obtain ⟨front, equal⟩ := List.getLast?_eq_some_iff.mp marked.2
        simp [equal]
      · cases found
    · rintro ⟨mark, member, rfl, rfl⟩
      simp [member]

end Text

end RouteCatalog
