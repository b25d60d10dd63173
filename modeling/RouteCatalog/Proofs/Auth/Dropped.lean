import RouteCatalog.Handler.Auth
import RouteCatalog.Proofs.Delimiter.Whole
import RouteCatalog.Proofs.Fallible

/-!
# Rows of an auth literal that are not read

Rows that are no entries are passed over when an auth literal is read, so whether a requirement
counts as known depends on the entries alone: `known_readAuth_iff`. `droppedRows` collects what was
passed over. `reportsDropped_iff` says exactly when a literal with such rows is kept as text, and
`readAuthLiteral_of_dropped` that one more of them is never noticed.
-/

namespace RouteCatalog

/-- What stands between the delimiters of an auth literal. -/
def literalInterior (literal : Text) : Text :=
  (literal.drop 1).dropLast

/-- The auth literal that source text exports, its delimiters included. -/
def authLiteral? (source : Text) : Option Text :=
  (Text.firstMatch atAuthLiteral? source).bind block?

/-- The items of the interior of a list literal that are not blank. -/
def listItems (interior : Text) : List Text :=
  (splitTopLevel (· == ',') interior).filter fun item => !item.isBlankText

/-- The rows that are neither blank nor entries. -/
def unreadRows (interior : Text) : List Text :=
  (rows interior).filter fun row => !row.isBlankText && (entryOfRow? row).isNone

/-- The interiors of the condition objects of an auth literal. -/
def conditionInteriors (literal : Text) : List Text :=
  match (lastOf? (entriesOf (literalInterior literal)) "additional".toList).map Text.trim with
  | some ('[' :: rest) =>
    if rest.getLast? = some ']' then (listItems rest.dropLast).filterMap unwrapBraces? else []
  | _ => []

/-- The rows of an auth literal and of its condition objects that are passed over. -/
def droppedRows (literal : Text) : List Text :=
  unreadRows (literalInterior literal) ++ (conditionInteriors literal).flatMap unreadRows

/-- The entries have a key and a check. -/
def IsCondition (entries : List (Text × Text)) : Prop :=
  "key".toList ∈ entries.map Prod.fst ∧
    ∃ kind : ConditionKind, kind.sourceKey ∈ entries.map Prod.fst

/-- The text is a list in brackets whose items are objects with a key and a check. -/
def IsConditionList (text : Text) : Prop :=
  ∃ interior, text.trim = '[' :: (interior ++ [']']) ∧ ∀ item ∈ listItems interior,
    ∃ object, unwrapBraces? item = some object ∧ IsCondition (entriesOf object)

/-- The entries of an auth literal are such that it can be read: `login` is absent or a boolean, and
`additional` is absent or a list of conditions. -/
def IsInterpretable (literal : Text) : Prop :=
  (∀ login, lastOf? (entriesOf (literalInterior literal)) "login".toList = some login →
    login = "true".toList ∨ login = "false".toList) ∧
  ∀ additional, lastOf? (entriesOf (literalInterior literal)) "additional".toList = some additional →
    IsConditionList additional

/-- A literal with rows that are passed over is kept as text and its requirement is not known. -/
def ReportsDropped (source : Text) : Prop :=
  ∀ literal, authLiteral? source = some literal → droppedRows literal ≠ [] →
    (readAuth source).known = false ∧ (readAuth source).raw = some literal

section Entries

variable {entries : List (Text × Text)} {key : Text}

/-- A key is found exactly if there is an entry with it. -/
theorem isSome_lastOf?_iff : (lastOf? entries key).isSome = true ↔ key ∈ entries.map Prod.fst := by
  simp [lastOf?, firstOf?, List.find?_isSome]

/-- Entries state a condition exactly if they have a key and a check. -/
theorem isSome_conditionOf?_iff : (conditionOf? entries).isSome = true ↔ IsCondition entries := by
  simp only [conditionOf?, IsCondition, ← isSome_lastOf?_iff]
  cases key : lastOf? entries "key".toList with
  | none => simp
  | some value =>
    simp only [Option.bind_eq_bind, Option.bind_some, List.findSome?_isSome_iff, Option.isSome_map,
      Option.isSome_some, true_and]
    constructor
    · rintro ⟨kind, -, found⟩
      exact ⟨kind, found⟩
    · rintro ⟨kind, found⟩
      exact ⟨kind, by cases kind <;> decide, found⟩

end Entries

/-- Conditions are read exactly from the lists of conditions. -/
theorem isSome_readConditions?_iff {text : Text} :
    (readConditions? text).isSome = true ↔ IsConditionList text := by
  have item : ∀ item, ((unwrapBraces? item).bind fun interior =>
      conditionOf? (entriesOf interior)).isSome = true ↔
        ∃ object, unwrapBraces? item = some object ∧ IsCondition (entriesOf object) := by
    intro item
    cases unwrapBraces? item with
    | none => simp
    | some object => simp [isSome_conditionOf?_iff]
  unfold readConditions? IsConditionList
  split
  · rename_i rest opened
    rw [opened]
    split
    · rename_i closed
      obtain ⟨interior, rfl⟩ := List.getLast?_eq_some_iff.mp closed
      rw [List.dropLast_concat, isSome_mapM_iff]
      simp only [item]
      constructor
      · intro all
        exact ⟨interior, rfl, all⟩
      · rintro ⟨other, same, all⟩
        obtain rfl : interior = other := by simpa using same
        exact all
    · rename_i open'
      simp only [Option.isSome_none, Bool.false_eq_true, false_iff]
      rintro ⟨interior, same, -⟩
      rw [List.cons.injEq] at same
      exact open' (by simp [same.2])
  · rename_i noBracket
    simp only [Option.isSome_none, Bool.false_eq_true, false_iff]
    rintro ⟨interior, same, -⟩
    exact noBracket _ same

/-- A list without items is a list of conditions. -/
theorem isConditionList_nil : IsConditionList "[]".toList := by
  rw [← isSome_readConditions?_iff]
  decide

/-- A literal gives a known requirement if its entries can be read, and is kept as text otherwise. -/
theorem readAuthLiteral_known (literal : Text) :
    (IsInterpretable literal ∧ (readAuthLiteral literal).known = true ∧
      (readAuthLiteral literal).raw = none) ∨
    (¬IsInterpretable literal ∧ (readAuthLiteral literal).known = false ∧
      (readAuthLiteral literal).raw = some literal) := by
  unfold readAuthLiteral IsInterpretable
  simp only [literalInterior]
  generalize lastOf? (entriesOf (literal.drop 1).dropLast) "login".toList = login?
  generalize lastOf? (entriesOf (literal.drop 1).dropLast) "additional".toList = additional?
  have booleans : (∀ login, login? = some login → login = "true".toList ∨ login = "false".toList) ↔
      ¬(login?.getD "false".toList ≠ "true".toList ∧ login?.getD "false".toList ≠ "false".toList) := by
    cases login? with
    | none => simp
    | some login => simp [Decidable.or_iff_not_imp_left]
  have conditions : (∀ additional, additional? = some additional → IsConditionList additional) ↔
      (readConditions? (additional?.getD "[]".toList)).isSome = true := by
    rw [isSome_readConditions?_iff]
    cases additional? with
    | none => simpa using isConditionList_nil
    | some additional => simp
  rw [booleans, conditions]
  by_cases unclear : login?.getD "false".toList ≠ "true".toList ∧
      login?.getD "false".toList ≠ "false".toList
  · right
    rw [if_pos unclear]
    exact ⟨fun both => both.1 unclear, rfl, rfl⟩
  · rw [if_neg unclear]
    cases readConditions? (additional?.getD "[]".toList) with
    | none => exact .inr ⟨fun both => by simp at both, rfl, rfl⟩
    | some additional => exact .inl ⟨⟨unclear, rfl⟩, rfl, rfl⟩

/-- What is read of source text with an auth literal is what is read of the literal. -/
theorem readAuth_of_literal {source literal : Text} (found : authLiteral? source = some literal) :
    readAuth source = readAuthLiteral literal := by
  obtain ⟨opened, first, closed⟩ := Option.bind_eq_some_iff.mp found
  rw [readAuth, first]
  simp only [closed]

/-- Without an auth literal nothing is known. -/
theorem readAuth_of_no_literal {source : Text} (missing : authLiteral? source = none) :
    (readAuth source).known = false ∧ (readAuth source).additional = [] := by
  rw [readAuth]
  cases first : Text.firstMatch atAuthLiteral? source with
  | none => exact ⟨rfl, rfl⟩
  | some opened =>
    have unclosed : block? opened = none := by simpa [authLiteral?, first] using missing
    simp only [unclosed, and_self]

/-- A requirement is known exactly if there is a literal whose entries can be read. -/
theorem known_readAuth_iff {source : Text} : (readAuth source).known = true ↔
    ∃ literal, authLiteral? source = some literal ∧ IsInterpretable literal := by
  cases found : authLiteral? source with
  | none => simp [readAuth_of_no_literal found]
  | some literal =>
    rw [readAuth_of_literal found]
    rcases readAuthLiteral_known literal with ⟨clear, known, -⟩ | ⟨unclear, known, -⟩
    · simp [known, clear]
    · simp [known, unclear]

/-- Exactly those literals are reported whose rows are all read or whose entries cannot be read. -/
theorem reportsDropped_iff (source : Text) : ReportsDropped source ↔
    ∀ literal, authLiteral? source = some literal →
      droppedRows literal = [] ∨ ¬IsInterpretable literal := by
  constructor
  · intro reports literal found
    by_cases none : droppedRows literal = []
    · exact .inl none
    · refine .inr fun clear => ?_
      obtain ⟨unknown, -⟩ := reports literal found none
      have known := known_readAuth_iff.mpr ⟨literal, found, clear⟩
      rw [unknown] at known
      cases known
  · intro exact literal found dropped
    rw [readAuth_of_literal found]
    rcases exact literal found with none | unclear
    · exact absurd none dropped
    · rcases readAuthLiteral_known literal with ⟨clear, -, -⟩ | ⟨-, unknown, raw⟩
      · exact absurd clear unclear
      · exact ⟨unknown, raw⟩

/-- A literal of one row that is no entry: the requirement counts as known, and as public. -/
theorem not_reportsDropped_shorthand :
    ¬ReportsDropped "export const auth: AuthProps = \x7b login \x7d;".toList ∧
      (readAuth "export const auth: AuthProps = \x7b login \x7d;".toList).summary =
        "public".toList := by
  constructor
  · intro reports
    obtain ⟨unknown, -⟩ := reports "\x7b login \x7d".toList (by decide) (by decide)
    exact absurd unknown (by decide)
  · decide

/-- One more row that is no entry changes nothing that is read of a literal. -/
theorem readAuthLiteral_of_dropped {row interior : Text} (closed : isClosed row = true)
    (whole : rows row = [row]) (unread : entryOfRow? row = none)
    (known : (readAuthLiteral ('{' :: (interior ++ ['}']))).known = true) :
    readAuthLiteral ('{' :: (row ++ ',' :: interior ++ ['}'])) =
      readAuthLiteral ('{' :: (interior ++ ['}'])) := by
  have entries : entriesOf (row ++ ',' :: interior) = entriesOf interior := by
    rw [entriesOf, rows, splitTopLevel_cons rfl rfl closed whole, List.filterMap_cons, unread]
    rfl
  have longer : (('{' :: (row ++ ',' :: interior ++ ['}'])).drop 1).dropLast =
      row ++ ',' :: interior := by
    rw [List.drop_one, List.tail_cons, List.dropLast_concat]
  have shorter : (('{' :: (interior ++ ['}'])).drop 1).dropLast = interior := by
    rw [List.drop_one, List.tail_cons, List.dropLast_concat]
  simp only [readAuthLiteral, longer, shorter, entries] at known ⊢
  -- The literal itself is kept only where the requirement is not known.
  split at known
  · cases known
  · rename_i login
    rw [if_neg login, if_neg login]
    split at known
    · cases known
    · rfl

end RouteCatalog
