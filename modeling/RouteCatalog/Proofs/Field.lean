import RouteCatalog.Proofs.Entry

/-!
# The shape of a field

Which rows of an object type are fields, and what the key and the type of a field are:
`fieldOfRow?_eq_some_iff`. Between the key and the mark of an optional field nothing may stand.
-/

namespace RouteCatalog

/-- Is the text an identifier? -/
def isIdentifier : Text → Bool
  | [] => false
  | first :: rest => isIdentifierStart first && rest.all isIdentifierRest

theorem isIdentifierRest_of_mem {key : Text} {character : Char} (identifier : isIdentifier key = true)
    (member : character ∈ key) : isIdentifierRest character = true := by
  cases key with
  | nil => cases member
  | cons first rest =>
    simp only [isIdentifier, Bool.and_eq_true, List.all_eq_true] at identifier
    rcases List.mem_cons.mp member with rfl | inRest
    · exact isIdentifierRest_of_isIdentifierStart identifier.1
    · exact identifier.2 character inRest

/-- What marks a field as optional stands right behind its key. -/
def optionalMark (optional : Bool) : Text :=
  if optional then ['?'] else []

/-- The field of a key, by what stands behind the key. -/
def fieldBehind? (key : Text) : (following : Text) → Option Field
  | '?' :: following => (afterColon? following).map fun type => ⟨key, true, type.trim⟩
  | following => (afterColon? following).map fun type => ⟨key, false, type.trim⟩

section Behind

variable {front key gap tail following : Text}

/-- Behind the key of a row nothing else decides. -/
theorem fieldOfRow?_eq_fieldBehind? (blank : front.isBlankText = true)
    (identifier : isIdentifier key = true) (ends : following.head?.any isIdentifierRest = false) :
    fieldOfRow? (front ++ (key ++ following)) = fieldBehind? key following := by
  obtain ⟨first, rest, rfl⟩ : ∃ first rest, key = first :: rest :=
    List.exists_cons_of_ne_nil (by rintro rfl; cases identifier)
  simp only [isIdentifier, Bool.and_eq_true, List.all_eq_true] at identifier
  have mark := isBlank_of_isIdentifierRest (isIdentifierRest_of_isIdentifierStart identifier.1)
  obtain ⟨taken, left⟩ := Text.span_append identifier.2 ends
  have start : (front ++ (first :: rest ++ following)).trimStart = first :: (rest ++ following) := by
    rw [Text.trimStart_append_of_blank blank, List.cons_append, Text.trimStart_cons_of_not_blank mark]
  simp only [fieldOfRow?, start, identifier.1, if_true, taken, left]
  rfl

/-- A field without a mark is required. -/
theorem fieldBehind?_of_unmarked (unmarked : following.head? ≠ some '?') :
    fieldBehind? key following = (afterColon? following).map fun type => ⟨key, false, type.trim⟩ := by
  unfold fieldBehind?
  split
  · exact absurd rfl unmarked
  · rfl

/-- A text with blanks at its beginning does not begin with a mark. -/
theorem head?_ne_of_blank {mark : Char} (blank : gap.isBlankText = true) (solid : isBlank mark = false)
    (other : gap = [] → following.head? ≠ some mark) : (gap ++ following).head? ≠ some mark := by
  cases gap with
  | nil => exact other rfl
  | cons first rest =>
    simp only [Text.isBlankText, List.all_cons, Bool.and_eq_true] at blank
    rw [List.cons_append, List.head?_cons, Ne, Option.some.injEq]
    rintro rfl
    exact absurd (blank.1.symm.trans solid) (by decide)

theorem fieldBehind?_mark (optional : Bool) (blank : gap.isBlankText = true) :
    fieldBehind? key (optionalMark optional ++ (gap ++ ':' :: tail)) =
      some ⟨key, optional, tail.trim⟩ := by
  have colon : afterColon? (gap ++ ':' :: tail) = some tail :=
    afterColon?_eq_some_iff.mpr ⟨gap, blank, rfl⟩
  cases optional with
  | true => simp [optionalMark, fieldBehind?, colon]
  | false =>
    have unmarked : (gap ++ ':' :: tail).head? ≠ some '?' :=
      head?_ne_of_blank blank (by decide) fun _ => by simp
    have required : optionalMark false ++ (gap ++ ':' :: tail) = gap ++ ':' :: tail := rfl
    rw [required, fieldBehind?_of_unmarked unmarked, colon]
    rfl

/-- Blanks between a key and the mark of an optional field hide the field. -/
theorem fieldBehind?_of_gap (blank : gap.isBlankText = true) (nonempty : gap ≠ []) :
    fieldBehind? key (gap ++ '?' :: following) = none := by
  have unmarked : (gap ++ '?' :: following).head? ≠ some '?' :=
    head?_ne_of_blank blank (by decide) fun empty => absurd empty nonempty
  have noColon : afterColon? (gap ++ '?' :: following) = none := by
    rw [afterColon?, Text.trimStart_append_of_blank blank, Text.trimStart_cons_of_not_blank (by decide)]
    rfl
  rw [fieldBehind?_of_unmarked unmarked, noColon]
  rfl

/-- Blanks and a mark behind them are no part of an identifier. -/
theorem head?_gap_apart {mark : Char} (blank : gap.isBlankText = true)
    (other : isIdentifierRest mark = false) :
    (gap ++ mark :: following).head?.any isIdentifierRest = false := by
  have noIdentifier : ∀ character, isBlank character = true → isIdentifierRest character = false :=
    fun character blank => Bool.eq_false_iff.mpr fun goes => by
      rw [isBlank_of_isIdentifierRest goes] at blank
      cases blank
  exact Text.head?_append_of_blank noIdentifier blank (by simpa using other)

end Behind

/-- A row declares a field exactly if it is a key, the mark of an optional field, a colon and the
type, with blanks before the key and the colon. -/
theorem fieldOfRow?_eq_some_iff {row : Text} {field : Field} :
    fieldOfRow? row = some field ↔
      isIdentifier field.key = true ∧ ∃ front gap tail : Text, front.isBlankText = true ∧
        gap.isBlankText = true ∧ field.type = tail.trim ∧
        row = front ++ (field.key ++ (optionalMark field.optional ++ (gap ++ ':' :: tail))) := by
  constructor
  · intro read
    obtain ⟨front, blank, parts⟩ := row.exists_trimStart
    unfold fieldOfRow? at read
    split at read
    · cases read
    · rename_i first rest start
      split at read
      · rename_i begins
        have key : isIdentifier (first :: rest.takeWhile isIdentifierRest) = true := by
          simp [isIdentifier, begins, List.all_takeWhile]
        have left := List.takeWhile_append_dropWhile (p := isIdentifierRest) (l := rest)
        dsimp only at read
        generalize rest.takeWhile isIdentifierRest = more at read key left
        split at read
        · rename_i following marked
          obtain ⟨tail, colon, rfl⟩ := Option.map_eq_some_iff.mp read
          obtain ⟨gap, blankGap, rfl⟩ := afterColon?_eq_some_iff.mp colon
          refine ⟨key, front, gap, tail, blank, blankGap, rfl, ?_⟩
          rw [parts, start, ← left, marked]
          simp [optionalMark]
        · obtain ⟨tail, colon, rfl⟩ := Option.map_eq_some_iff.mp read
          obtain ⟨gap, blankGap, following⟩ := afterColon?_eq_some_iff.mp colon
          refine ⟨key, front, gap, tail, blank, blankGap, rfl, ?_⟩
          rw [parts, start, ← left, following]
          simp [optionalMark]
      · cases read
  · obtain ⟨key, optional, type⟩ := field
    rintro ⟨identifier, front, gap, tail, blank, blankGap, rfl, rfl⟩
    have ends : (optionalMark optional ++ (gap ++ ':' :: tail)).head?.any isIdentifierRest = false := by
      cases optional with
      | true => rfl
      | false => exact head?_gap_apart blankGap (by decide)
    rw [fieldOfRow?_eq_fieldBehind? blank identifier ends, fieldBehind?_mark optional blankGap]

end RouteCatalog
