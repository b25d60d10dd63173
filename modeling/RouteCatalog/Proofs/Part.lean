import RouteCatalog.Proofs.Delimiter.Whole
import RouteCatalog.Proofs.Entry

/-!
# Closed texts that are not split

A part is a closed text that is not split at the separators of rows or unions. Parts in sequence are a
part, a group of a closed text is, and so is text of quiet characters such as blanks, digits and
identifiers.
-/

namespace RouteCatalog

/-- A character that neither delimits nor separates anything. -/
def isQuiet (character : Char) : Bool :=
  isPlain character && !([',', ';', '|'].contains character)

/-- The separators are among those of rows and unions. -/
def SeparatesParts (isSeparator : Char → Bool) : Prop :=
  ∀ character, isSeparator character = true → character ∈ [',', ';', '|']

/-- A closed text that is not split. -/
structure IsPart (isSeparator : Char → Bool) (text : Text) : Prop where
  closed : isClosed text = true
  whole : splitTopLevel isSeparator text = [text]

instance (isSeparator : Char → Bool) (text : Text) : Decidable (IsPart isSeparator text) :=
  decidable_of_iff (isClosed text = true ∧ splitTopLevel isSeparator text = [text])
    ⟨fun ⟨closed, whole⟩ => ⟨closed, whole⟩, fun part => ⟨part.closed, part.whole⟩⟩

section Part

variable {isSeparator : Char → Bool} {text front back : Text}

theorem separatesParts_row : SeparatesParts isRowSeparator := by
  intro character separates
  simp only [isRowSeparator, Bool.or_eq_true, beq_iff_eq] at separates
  rcases separates with rfl | rfl <;> decide

theorem separatesParts_bar : SeparatesParts (· == '|') := by
  intro character separates
  rw [beq_iff_eq.mp separates]
  decide

theorem SeparatesParts.eq_false (separates : SeparatesParts isSeparator) {character : Char}
    (other : character ∉ [',', ';', '|']) : isSeparator character = false :=
  Bool.eq_false_iff.mpr fun separator => other (separates character separator)

theorem IsPart.append (frontPart : IsPart isSeparator front) (backPart : IsPart isSeparator back) :
    IsPart isSeparator (front ++ back) :=
  ⟨isClosed_append frontPart.closed backPart.closed,
    whole_append frontPart.closed frontPart.whole backPart.whole⟩

/-- A text of quiet characters is a part. -/
theorem IsPart.of_quiet (separates : SeparatesParts isSeparator) (quiet : text.all isQuiet = true) :
    IsPart isSeparator text := by
  have each : ∀ character ∈ text, isPlain character = true ∧ character ∉ [',', ';', '|'] := by
    intro character member
    simpa [isQuiet] using List.all_eq_true.mp quiet character member
  refine ⟨isClosed_of_plain (List.all_eq_true.mpr fun character member => (each character member).1),
    whole_of_not_separator (List.all_eq_true.mpr fun character member => ?_)⟩
  simp [separates.eq_false (each character member).2]

theorem IsPart.group (separates : SeparatesParts isSeparator) (kind : Delimiter)
    (closed : isClosed text = true) : IsPart isSeparator (kind.opener :: (text ++ [kind.closer])) :=
  ⟨isClosed_group kind closed,
    whole_group kind (separates.eq_false (by cases kind <;> decide)) closed⟩

/-- Parts with the separator between them are the parts of the text. -/
theorem splitTopLevel_join {separator : Char} (plain : isPlain separator = true) {part : Text}
    {parts : List Text} (each : ∀ other ∈ part :: parts, IsPart (· == separator) other) :
    splitTopLevel (· == separator) (Text.join [separator] (part :: parts)) = part :: parts := by
  induction parts generalizing part with
  | nil => exact (each part (by simp)).whole
  | cons next parts inductionHypothesis =>
    obtain ⟨first, others⟩ := List.forall_mem_cons.mp each
    have joined : Text.join [separator] (part :: next :: parts) =
        part ++ separator :: Text.join [separator] (next :: parts) := by
      simp [Text.join]
    rw [joined, splitTopLevel_cons (by simp) plain first.closed first.whole,
      inductionHypothesis others]

theorem isQuiet_of_isBlank {character : Char} (blank : isBlank character = true) :
    isQuiet character = true := by
  have other : character ∉ [',', ';', '|'] := not_mem_of_any blank (by decide)
  simpa [isQuiet, isPlain_of_isBlank blank] using other

theorem all_isQuiet_of_blank (blank : text.isBlankText = true) : text.all isQuiet = true :=
  List.all_eq_true.mpr fun character member =>
    isQuiet_of_isBlank (List.all_eq_true.mp blank character member)

/-- Blanks are a part. -/
theorem IsPart.of_blank (separates : SeparatesParts isSeparator) (blank : text.isBlankText = true) :
    IsPart isSeparator text :=
  .of_quiet separates (all_isQuiet_of_blank blank)

theorem isQuiet_of_isDigit {character : Char} (digit : character.isDigit = true) :
    isQuiet character = true := by
  have other : character ∉ ['\'', '"', '(', '{', '[', ')', '}', ']', ',', ';', '|'] :=
    not_mem_of_any digit (by decide)
  simp only [List.mem_cons, List.not_mem_nil, or_false, not_or] at other
  simp [isQuiet, isPlain, Quote.ofMark?, Delimiter.isOpener, Delimiter.isCloser,
    Delimiter.ofOpener?, Delimiter.ofCloser?, other]

theorem isQuiet_of_isIdentifierRest {character : Char}
    (identifier : isIdentifierRest character = true) : isQuiet character = true := by
  have other : character ∉ ['\'', '"', '(', '{', '[', ')', '}', ']', ',', ';', '|'] :=
    not_mem_of_any identifier (by decide)
  simp only [List.mem_cons, List.not_mem_nil, or_false, not_or] at other
  simp [isQuiet, isPlain, Quote.ofMark?, Delimiter.isOpener, Delimiter.isCloser,
    Delimiter.ofOpener?, Delimiter.ofCloser?, other]

end Part

end RouteCatalog
