import RouteCatalog.Proofs.Field

/-!
# Fields among entries

The rows of a braced text are read as fields of an object type or as entries, with other keys and other
gaps before the colon. A row that is a field is an entry of the same key and the same text: an identifier
is a bare key, and both readings go on to the first colon behind it (`entryOfRow?_of_fieldOfRow?`). So the
fields of a text are the entries of its interior, without those whose rows do not begin as a field does
(`fieldsOf_entries`).
-/

namespace RouteCatalog

/-- Blanks apart, the row begins with an identifier, perhaps the mark of an optional field right behind it,
and a colon. -/
def BeginsField (row : Text) : Prop :=
  ∃ (front key : Text) (optional : Bool) (gap tail : Text), front.isBlankText = true ∧
    isIdentifier key = true ∧ gap.isBlankText = true ∧
    row = front ++ (key ++ (optionalMark optional ++ (gap ++ ':' :: tail)))

/-- The key and the type of a field. -/
def Field.entry (field : Field) : Text × Text :=
  (field.key, field.type)

/-- The entries of an interior, each with the row that it is read from. -/
def rowEntries (interior : Text) : List (Text × (Text × Text)) :=
  (rows interior).filterMap fun row => (entryOfRow? row).map (row, ·)

section Rows

variable {row : Text} {field : Field}

/-- The rows that begin as a field does are the fields. -/
theorem isSome_fieldOfRow?_iff : (fieldOfRow? row).isSome = true ↔ BeginsField row := by
  constructor
  · intro read
    obtain ⟨field, read⟩ := Option.isSome_iff_exists.mp read
    obtain ⟨identifier, front, gap, tail, blank, blankGap, -, parts⟩ := fieldOfRow?_eq_some_iff.mp read
    exact ⟨front, field.key, field.optional, gap, tail, blank, identifier, blankGap, parts⟩
  · rintro ⟨front, key, optional, gap, tail, blank, identifier, blankGap, parts⟩
    have read : fieldOfRow? row = some ⟨key, optional, tail.trim⟩ :=
      fieldOfRow?_eq_some_iff.mpr ⟨identifier, front, gap, tail, blank, blankGap, rfl, parts⟩
    rw [read]
    rfl

instance : DecidablePred BeginsField :=
  fun _ => decidable_of_iff _ isSome_fieldOfRow?_iff

/-- An identifier is a key without quotes. -/
theorem readsKey_of_isIdentifier {key : Text} (identifier : isIdentifier key = true) :
    ReadsKey key key := by
  refine .bare (by rintro rfl; cases identifier) (List.all_eq_true.mpr fun character member => ?_)
  have continues := isIdentifierRest_of_mem identifier member
  simp only [isIdentifierRest, Bool.or_eq_true] at continues
  rcases continues with isWordCharacter | dollar
  · simp [isBareKeyCharacter, isWordCharacter]
  · simp [isBareKeyCharacter, dollar]

/-- The mark of an optional field, if it is there, and blanks may stand before the colon of an entry. -/
theorem isColonGap_optionalMark (optional : Bool) {gap : Text} (blank : gap.isBlankText = true) :
    IsColonGap (optionalMark optional ++ gap) := by
  cases optional with
  | true =>
    have noGap : Text.isBlankText [] = true := rfl
    exact .optional noGap blank
  | false => exact .blank blank

/-- A field is an entry of the same key and the same text. -/
theorem entryOfRow?_of_fieldOfRow? (read : fieldOfRow? row = some field) :
    entryOfRow? row = some field.entry := by
  obtain ⟨identifier, front, gap, tail, blank, blankGap, type, parts⟩ := fieldOfRow?_eq_some_iff.mp read
  refine entryOfRow?_eq_some_iff.mpr ⟨front, field.key, optionalMark field.optional ++ gap, tail, blank,
    readsKey_of_isIdentifier identifier, isColonGap_optionalMark _ blankGap, ?_, type⟩
  rw [parts, List.append_assoc]

/-- What a row is as a field is what it is as an entry, or nothing. -/
theorem map_entry_fieldOfRow? (row : Text) :
    (fieldOfRow? row).map Field.entry = if BeginsField row then entryOfRow? row else none := by
  cases read : fieldOfRow? row with
  | none =>
    have other : ¬BeginsField row := by simp [← isSome_fieldOfRow?_iff, read]
    rw [if_neg other]
    rfl
  | some field =>
    have begins : BeginsField row := by simp [← isSome_fieldOfRow?_iff, read]
    rw [if_pos begins, entryOfRow?_of_fieldOfRow? read]
    rfl

end Rows

section Interior

variable {text interior : Text}

theorem map_snd_rowEntries (interior : Text) : (rowEntries interior).map Prod.snd = entriesOf interior := by
  rw [rowEntries, entriesOf, List.map_filterMap]
  simp [Function.comp_def]

/-- The fields of a text are the entries from the rows of its interior that begin as a field does. -/
theorem map_entry_fieldsOf (unwrapped : unwrapBraces? text = some interior) :
    (fieldsOf text).map Field.entry =
      ((rowEntries interior).filter fun item => BeginsField item.1).map Prod.snd := by
  rw [fieldsOf, unwrapped, rowEntries, List.map_filterMap, List.filter_filterMap, List.map_filterMap]
  refine List.filterMap_congr fun row _ => ?_
  rw [map_entry_fieldOfRow?]
  cases entryOfRow? row with
  | none => simp
  | some entry => by_cases begins : BeginsField row <;> simp [begins, Option.filter]

/-- Fields and entries are in one order, and the entries that are no fields are those whose rows do not
begin as a field does. -/
theorem fieldsOf_entries (unwrapped : unwrapBraces? text = some interior) :
    (rowEntries interior).map Prod.snd = entriesOf interior ∧
      (fieldsOf text).map Field.entry =
        ((rowEntries interior).filter fun item => BeginsField item.1).map Prod.snd ∧
      ((fieldsOf text).map Field.entry).Sublist (entriesOf interior) := by
  have fields := map_entry_fieldsOf unwrapped
  refine ⟨map_snd_rowEntries interior, fields, ?_⟩
  rw [fields, ← map_snd_rowEntries]
  exact List.filter_sublist.map Prod.snd

/-- Fields with and without a mark between entries that are none: a quoted key, a blank before the mark, a
digit, an at sign or a letter of another alphabet at the beginning. The last two rows are no entries. -/
def mixedRows : Text :=
  " a?: \x7bx: 1\x7d; 'q': 1; b ?: 2; 42: z;\n$x : y, @p: 3; é: 4; _: ; [k: string]: any; ok".toList

theorem fieldsOf_entries_mixed :
    unwrapBraces? ('{' :: mixedRows ++ ['}']) = some mixedRows ∧
      (rowEntries mixedRows).map Prod.snd = entriesOf mixedRows ∧
      (fieldsOf ('{' :: mixedRows ++ ['}'])).map Field.entry =
        ((rowEntries mixedRows).filter fun item => BeginsField item.1).map Prod.snd ∧
      ((fieldsOf ('{' :: mixedRows ++ ['}'])).map Field.entry).Sublist (entriesOf mixedRows) ∧
      (fieldsOf ('{' :: mixedRows ++ ['}'])).map Field.entry =
        [("a".toList, "\x7bx: 1\x7d".toList), ("$x".toList, "y".toList), ("_".toList, [])] ∧
      (entriesOf mixedRows).map Prod.fst =
        ["a", "q", "b", "42", "$x", "@p", "é", "_"].map String.toList := by
  have unwrapped : unwrapBraces? ('{' :: mixedRows ++ ['}']) = some mixedRows := by decide
  obtain ⟨entries, fields, within⟩ := fieldsOf_entries unwrapped
  exact ⟨unwrapped, entries, fields, within, by decide, by decide⟩

end Interior

end RouteCatalog
