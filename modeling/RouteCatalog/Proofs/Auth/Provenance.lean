import RouteCatalog.Proofs.Auth.Dropped
import RouteCatalog.Proofs.Entry
import RouteCatalog.Proofs.Keyed
import RouteCatalog.Proofs.Rows

/-!
# Where conditions come from

Nothing is made up when an auth literal is read: what a condition expects is the literal in one row of
the source text (`exists_row_of_mem_additional`). That row is not split, and the bracket that closes the
list of conditions stands behind it.
-/

namespace RouteCatalog

/-- A literal that denotes a string is the string, or the string between two equal marks. -/
theorem eq_of_readLiteral_eq_text {text content : Text} (read : readLiteral text = .text content) :
    text.trim = content ∨
      ∃ mark, mark ∈ ['\'', '"', '\x60'] ∧ text.trim = mark :: (content ++ [mark]) := by
  unfold readLiteral at read
  dsimp only at read
  split at read
  · cases read
  · split at read
    · cases read
    · split at read
      · cases read
      · split at read
        · rename_i inside unwrapped
          cases read
          exact .inr (Text.unwrapMarks?_eq_some_iff.mp unwrapped)
        · split at read
          · cases read
          · split at read
            · cases read
            · cases read
              exact .inl rfl

/-- The string that a literal denotes stands in it. -/
theorem isInfix_of_readLiteral_eq_text {text content : Text}
    (read : readLiteral text = .text content) : content <:+: text := by
  refine List.IsInfix.trans ?_ (Text.trim_isInfix text)
  rcases eq_of_readLiteral_eq_text read with same | ⟨mark, -, same⟩
  · exact same ▸ List.infix_rfl
  · exact same ▸ ⟨[mark], [mark], rfl⟩

section Entries

variable {interior key value : Text}

/-- An entry is written in a row, and its value stands in that row. -/
theorem exists_row_of_mem_entriesOf (member : (key, value) ∈ entriesOf interior) :
    ∃ row, row <:+: interior ∧ rows row = [row] ∧ entryOfRow? row = some (key, value) := by
  obtain ⟨row, inRows, read⟩ := List.mem_filterMap.mp member
  obtain ⟨front, back, rfl, -, whole, -⟩ := mem_rows_iff.mp inRows
  exact ⟨row, ⟨front, back, by simp⟩, whole, read⟩

/-- The value of an entry stands in its row. -/
theorem isInfix_of_entryOfRow? {row : Text} (read : entryOfRow? row = some (key, value)) :
    value <:+: row := by
  obtain ⟨front, token, gap, tail, -, -, -, rfl, rfl⟩ := entryOfRow?_eq_some_iff.mp read
  have behind : tail <:+ front ++ (token ++ (gap ++ ':' :: tail)) :=
    ⟨front ++ (token ++ (gap ++ [':'])), by simp⟩
  exact (Text.trim_isInfix tail).trans behind.isInfix

/-- The value of an entry stands in the text whose entry it is. -/
theorem isInfix_of_mem_entriesOf (member : (key, value) ∈ entriesOf interior) :
    value <:+: interior := by
  obtain ⟨row, inside, -, read⟩ := exists_row_of_mem_entriesOf member
  exact (isInfix_of_entryOfRow? read).trans inside

end Entries

section Conditions

variable {condition : AuthCondition}

/-- What a condition expects is the value of the entry of its check. -/
theorem exists_mem_of_conditionOf? {entries : List (Text × Text)}
    (found : conditionOf? entries = some condition) :
    ∃ value, (condition.kind.sourceKey, value) ∈ entries ∧ condition.expected = readLiteral value := by
  obtain ⟨key, -, check⟩ := Option.bind_eq_some_iff.mp found
  obtain ⟨kind, -, made⟩ := List.exists_of_findSome?_eq_some check
  obtain ⟨value, last, rfl⟩ := Option.map_eq_some_iff.mp made
  exact ⟨value, mem_of_lastOf? last, rfl⟩

/-- Every condition of a list is an object in braces that stands between the brackets. -/
theorem exists_object_of_mem_readConditions? {text : Text} {conditions : List AuthCondition}
    (read : readConditions? text = some conditions) (member : condition ∈ conditions) :
    ∃ interior object, '[' :: (interior ++ [']']) <:+: text ∧ object <:+: interior ∧
      conditionOf? (entriesOf object) = some condition := by
  unfold readConditions? at read
  split at read
  · rename_i rest opened
    split at read
    · rename_i closed
      obtain ⟨interior, rfl⟩ := List.getLast?_eq_some_iff.mp closed
      rw [List.dropLast_concat] at read
      obtain ⟨item, inItems, made⟩ := exists_of_mem_mapM? read member
      obtain ⟨object, unwrapped, found⟩ := Option.bind_eq_some_iff.mp made
      have inItem : object <:+: item := by
        have within := Text.trim_isInfix item
        rw [unwrapBraces?_eq_some_iff.mp unwrapped] at within
        exact List.IsInfix.trans ⟨['{'], ['}'], rfl⟩ within
      have inInterior : item <:+: interior :=
        (isInfix_of_mem_splitFrom _ _ interior).2 item (List.mem_filter.mp inItems).1
      exact ⟨interior, object, opened ▸ Text.trim_isInfix text, inItem.trans inInterior, found⟩
    · cases read
  · cases read

/-- The conditions that are read of an auth literal are those of the list that is its entry
`additional`. -/
theorem exists_list_of_mem_additional {literal : Text}
    (member : condition ∈ (readAuthLiteral literal).additional) :
    ∃ list conditions, ("additional".toList, list) ∈ entriesOf (literalInterior literal) ∧
      readConditions? list = some conditions ∧ condition ∈ conditions := by
  unfold readAuthLiteral at member
  dsimp only at member
  split at member
  · cases member
  · split at member
    · cases member
    · rename_i conditions read
      cases found : lastOf? (entriesOf (literal.drop 1).dropLast) "additional".toList with
      | none =>
        obtain rfl : conditions = [] := by
          rw [found] at read
          exact (Option.some.inj read).symm
        cases member
      | some list =>
        rw [found] at read
        exact ⟨list, conditions, mem_of_lastOf? found, read, member⟩

/-- What a condition expects is written in one row of the auth literal, in front of the bracket that
closes the list of conditions. -/
theorem exists_row_of_mem_additional {source : Text}
    (member : condition ∈ (readAuth source).additional) :
    ∃ literal front row back value, authLiteral? source = some literal ∧
      literalInterior literal = front ++ (row ++ back) ∧ ']' ∈ back ∧ rows row = [row] ∧
      entryOfRow? row = some (condition.kind.sourceKey, value) ∧
      condition.expected = readLiteral value := by
  obtain ⟨literal, found⟩ : ∃ literal, authLiteral? source = some literal := by
    rw [← Option.isSome_iff_exists, Option.isSome_iff_ne_none]
    intro missing
    rw [(readAuth_of_no_literal missing).2] at member
    cases member
  rw [readAuth_of_literal found] at member
  obtain ⟨list, conditions, isEntry, read, inList⟩ := exists_list_of_mem_additional member
  obtain ⟨interior, object, bracketed, inside, isCondition⟩ :=
    exists_object_of_mem_readConditions? read inList
  obtain ⟨value, inEntries, expected⟩ := exists_mem_of_conditionOf? isCondition
  obtain ⟨row, inObject, whole, entry⟩ := exists_row_of_mem_entriesOf inEntries
  obtain ⟨before, behind, rfl⟩ := inObject.trans inside
  obtain ⟨front, back, parts⟩ := bracketed.trans (isInfix_of_mem_entriesOf isEntry)
  exact ⟨literal, front ++ '[' :: before, row, behind ++ ']' :: back, value, found, by simp [← parts],
    by simp, whole, entry, expected⟩

end Conditions

end RouteCatalog
