import RouteCatalog.Proofs.Delimiter.Decomposition
import RouteCatalog.Proofs.Field
import RouteCatalog.Proofs.Part
import RouteCatalog.Proofs.Rows

/-!
# Fields that are written and read

Fields can be written as an object type and read again exactly if each could have been read from a row,
and no type but the last leaves a literal or a group open: `fieldsOf_renderFields_iff`. All fields that
are read are of this kind, whatever is open or surplus in the text, since a row ends only where the scan
is at top level: `areWritable_fieldsOf`.
-/

namespace RouteCatalog

/-- The row that declares the field. -/
def Field.write (field : Field) : Text :=
  field.key ++ (optionalMark field.optional ++ (": ".toList ++ field.type))

/-- The key is an identifier, and the type has no blanks at its ends and shows no separator of rows at
top level to a fresh scan. -/
structure Field.IsWritable (field : Field) : Prop where
  key : isIdentifier field.key = true
  trimmed : field.type.trim = field.type
  uncut : ∀ place, ¬IsCut isRowSeparator .start field.type place

/-- Every field can be written, and behind the type of each but the last the scan is at top level. -/
structure AreWritable (fields : List Field) : Prop where
  each : ∀ field ∈ fields, field.IsWritable
  ended : ∀ field ∈ fields.dropLast, (Scanner.start.scan field.type).atTopLevel = true

/-- Whether a place of the type is a cut is decided by its rows. -/
instance Field.decidableIsWritable (field : Field) : Decidable field.IsWritable :=
  decidable_of_iff (isIdentifier field.key = true ∧ field.type.trim = field.type ∧
      rows field.type = [field.type])
    ⟨fun ⟨key, trimmed, whole⟩ => ⟨key, trimmed, splitTopLevel_eq_singleton_iff.mp whole⟩,
      fun ⟨key, trimmed, uncut⟩ => ⟨key, trimmed, splitTopLevel_eq_singleton_iff.mpr uncut⟩⟩

instance decidableAreWritable (fields : List Field) : Decidable (AreWritable fields) :=
  decidable_of_iff ((∀ field ∈ fields, field.IsWritable) ∧
      ∀ field ∈ fields.dropLast, (Scanner.start.scan field.type).atTopLevel = true)
    ⟨fun ⟨each, ended⟩ => ⟨each, ended⟩, fun ⟨each, ended⟩ => ⟨each, ended⟩⟩

/-- The rows are written with semicolons between them. -/
theorem renderFields_eq (fields : List Field) :
    renderFields fields =
      '{' :: (' ' :: (Text.join "; ".toList (fields.map Field.write) ++ [' ']) ++ ['}']) := by
  have rowsWritten : fields.map Field.write = fields.map fun field =>
      field.key ++ (if field.optional then ['?'] else []) ++ ": ".toList ++ field.type :=
    List.map_congr_left fun field _ => by simp [Field.write, optionalMark]
  simp [renderFields, rowsWritten]

/-- The fields of a written object type are those that its rows declare. -/
theorem fieldsOf_renderFields (fields : List Field) : fieldsOf (renderFields fields) =
    (rows (' ' :: (Text.join "; ".toList (fields.map Field.write) ++ [' ']))).filterMap fieldOfRow? := by
  have unwrapped : unwrapBraces? (renderFields fields) =
      some (' ' :: (Text.join "; ".toList (fields.map Field.write) ++ [' '])) := by
    rw [renderFields_eq]
    exact unwrapBraces?_eq_some_iff.mpr (Text.trim_of_ends (by decide) (by decide))
  rw [fieldsOf, unwrapped]

section Head

variable {front key gap : Text} {optional : Bool}

/-- What stands before a type is a part. -/
theorem isPart_beforeType (blankFront : front.isBlankText = true) (identifier : isIdentifier key = true)
    (blankGap : gap.isBlankText = true) :
    IsPart isRowSeparator (front ++ (key ++ (optionalMark optional ++ (gap ++ [':'])))) := by
  have quietKey : key.all isQuiet = true := List.all_eq_true.mpr fun character member =>
    isQuiet_of_isIdentifierRest (isIdentifierRest_of_mem identifier member)
  have quietMark : (optionalMark optional).all isQuiet = true := by cases optional <;> decide
  have quietColon : [':'].all isQuiet = true := by decide
  refine .of_quiet separatesParts_row ?_
  simp only [List.all_append, all_isQuiet_of_blank blankFront, quietKey, quietMark,
    all_isQuiet_of_blank blankGap, quietColon, Bool.and_true]

end Head

namespace Field.IsWritable

variable {field : Field} {front back : Text}

/-- The row of the field, between blanks, declares it. -/
theorem fieldOfRow?_write (writable : field.IsWritable) (blankFront : front.isBlankText = true)
    (blankBack : back.isBlankText = true) : fieldOfRow? (front ++ (field.write ++ back)) = some field := by
  have space : Text.isBlankText [' '] = true := by decide
  have typed : Text.trim ([' '] ++ field.type ++ back) = field.type := by
    rw [Text.trim_between space blankBack, writable.trimmed]
  exact fieldOfRow?_eq_some_iff.mpr ⟨writable.key, front, [], ' ' :: (field.type ++ back), blankFront,
    rfl, typed.symm, by simp [Field.write]⟩

/-- The row of the field, behind blanks, is not split, and the scan of it ends as that of the type. -/
theorem whole_write (writable : field.IsWritable) (blankFront : front.isBlankText = true) :
    rows (front ++ field.write) = [front ++ field.write] ∧
      (Scanner.start.scan (front ++ field.write)).atTopLevel =
        (Scanner.start.scan field.type).atTopLevel := by
  have colon : IsPart isRowSeparator
      (front ++ (field.key ++ (optionalMark field.optional ++ ([] ++ [':'])))) :=
    isPart_beforeType blankFront writable.key rfl
  have space : IsPart isRowSeparator [' '] := ⟨by decide, by decide⟩
  have head := colon.append space
  have shape : front ++ field.write =
      front ++ (field.key ++ (optionalMark field.optional ++ ([] ++ [':']))) ++ [' '] ++ field.type := by
    simp [Field.write]
  have whole : rows field.type = [field.type] := splitTopLevel_eq_singleton_iff.mpr writable.uncut
  rw [shape]
  exact ⟨whole_append head.closed head.whole whole, atTopLevel_scan_append head.closed⟩

end Field.IsWritable

/-- Fields that can be written stay so behind one more, if the scan of its type ends at top level. -/
theorem AreWritable.cons {field : Field} {rest : List Field} (writable : field.IsWritable)
    (ended : rest ≠ [] → (Scanner.start.scan field.type).atTopLevel = true)
    (others : AreWritable rest) : AreWritable (field :: rest) where
  each := List.forall_mem_cons.mpr ⟨writable, others.each⟩
  ended := by
    cases rest with
    | nil => simp
    | cons next rest => exact List.forall_mem_cons.mpr ⟨ended (by simp), others.ended⟩

/-- The rows between the braces of a written object type declare its fields. -/
theorem filterMap_rows_join {fields : List Field} (writable : AreWritable fields) :
    (rows (' ' :: (Text.join "; ".toList (fields.map Field.write) ++ [' ']))).filterMap fieldOfRow? =
      fields := by
  have space : Text.isBlankText [' '] = true := by decide
  induction fields with
  | nil => decide
  | cons field rest inductionHypothesis =>
    have first := writable.each field (by simp)
    obtain ⟨whole, level⟩ := first.whole_write space
    cases rest with
    | nil =>
      have whole : rows ([' '] ++ field.write ++ [' ']) = [[' '] ++ field.write ++ [' ']] :=
        whole_append_of_not_separator whole (by decide)
      have declared := first.fieldOfRow?_write space space
      have shape : ' ' :: (Text.join "; ".toList ([field].map Field.write) ++ [' ']) =
          [' '] ++ field.write ++ [' '] := by
        simp [Text.join]
      rw [← List.append_assoc] at declared
      rw [shape, whole]
      simp only [List.filterMap_cons, declared, List.filterMap_nil]
    | cons next rest =>
      have others : AreWritable (next :: rest) :=
        ⟨fun field member => writable.each field (List.mem_cons_of_mem _ member),
          fun field member => writable.ended field (List.mem_cons_of_mem _ member)⟩
      have top : (Scanner.start.scan ([' '] ++ field.write)).atTopLevel = true := by
        rw [level]
        exact writable.ended field (by simp)
      have declared : fieldOfRow? ([' '] ++ (field.write ++ [])) = some field :=
        first.fieldOfRow?_write space rfl
      have shape : ' ' :: (Text.join "; ".toList ((field :: next :: rest).map Field.write) ++ [' ']) =
          [' '] ++ field.write ++ ';' ::
            (' ' :: (Text.join "; ".toList ((next :: rest).map Field.write) ++ [' '])) := by
        simp [Text.join]
      rw [List.append_nil] at declared
      rw [shape, rows_append_cons rfl top, List.filterMap_append, whole]
      simp only [List.filterMap_cons, declared, List.filterMap_nil]
      exact congrArg (field :: ·) (inductionHypothesis others)

/-- A field that is read from a row can be written, and the scan of its type ends as that of the row. -/
theorem isWritable_of_fieldOfRow? {row : Text} {field : Field} (read : fieldOfRow? row = some field)
    (whole : rows row = [row]) : field.IsWritable ∧
      (Scanner.start.scan row).atTopLevel = (Scanner.start.scan field.type).atTopLevel := by
  obtain ⟨key, front, gap, tail, blankFront, blankGap, trimmed, rfl⟩ := fieldOfRow?_eq_some_iff.mp read
  obtain ⟨lead, back, blankLead, blankBack, parts⟩ := tail.exists_trimmed
  have colon : IsPart isRowSeparator
      (front ++ (field.key ++ (optionalMark field.optional ++ (gap ++ [':'])))) :=
    isPart_beforeType blankFront key blankGap
  have head := colon.append (.of_blank separatesParts_row blankLead)
  have shape : front ++ (field.key ++ (optionalMark field.optional ++ (gap ++ ':' :: tail))) =
      front ++ (field.key ++ (optionalMark field.optional ++ (gap ++ [':']))) ++ lead ++
        (field.type ++ back) := by
    rw [trimmed]
    conv => lhs; rw [parts]
    simp
  rw [shape] at whole ⊢
  have wholeType : rows field.type = [field.type] := whole_of_append (whole_behind head.closed whole)
  refine ⟨⟨key, ?_, splitTopLevel_eq_singleton_iff.mp wholeType⟩, ?_⟩
  · rw [trimmed, Text.trim_trim]
  · rw [atTopLevel_scan_append head.closed, Scanner.scan_append]
    exact Scanner.atTopLevel_scan_of_plain (List.all_eq_true.mpr fun character member =>
      isPlain_of_isBlank (List.all_eq_true.mp blankBack character member))

/-- The fields that the rows of a text declare can be written. -/
theorem areWritable_filterMap_rows (text : Text) : AreWritable ((rows text).filterMap fieldOfRow?) := by
  generalize found : rows text = parts
  -- Over the rows: behind each separator the scan is at top level, as at the start.
  induction parts generalizing text with
  | nil => exact ⟨nofun, nofun⟩
  | cons row others inductionHypothesis =>
    obtain ⟨whole, shape⟩ := splitFrom_eq_cons found
    have behind : AreWritable (others.filterMap fieldOfRow?) ∧
        (others ≠ [] → (Scanner.start.scan row).atTopLevel = true) := by
      rcases shape with ⟨-, rfl⟩ | ⟨separator, rest, -, separates, top, same⟩
      · exact ⟨⟨nofun, nofun⟩, fun nonempty => absurd rfl nonempty⟩
      · have boundary : IsRowBoundary (row ++ [separator]) := .behind separates top
        have level : ((Scanner.start.scan row).feed separator).atTopLevel = true := by
          simpa [Scanner.scan_append] using boundary.top
        rw [splitFrom_of_atTopLevel level] at same
        exact ⟨inductionHypothesis rest same.symm, fun _ => top⟩
    rw [List.filterMap_cons]
    cases read : fieldOfRow? row with
    | none => exact behind.1
    | some field =>
      obtain ⟨writable, level⟩ := isWritable_of_fieldOfRow? read whole
      refine .cons writable (fun nonempty => ?_) behind.1
      rw [← level]
      exact behind.2 (by rintro rfl; exact nonempty rfl)

/-- All fields that are read can be written. -/
theorem areWritable_fieldsOf (text : Text) : AreWritable (fieldsOf text) := by
  unfold fieldsOf
  split
  · exact ⟨nofun, nofun⟩
  · exact areWritable_filterMap_rows _

/-- Fields are read again from their object type exactly if they can be written. -/
theorem fieldsOf_renderFields_iff {fields : List Field} :
    fieldsOf (renderFields fields) = fields ↔ AreWritable fields := by
  constructor
  · intro same
    rw [← same]
    exact areWritable_fieldsOf _
  · intro writable
    rw [fieldsOf_renderFields]
    exact filterMap_rows_join writable

/-- Reading undoes writing for the fields that can be written and for no others, and all fields that are
read from a text are among them. -/
theorem fieldsOf_undoes_renderFields :
    (∀ fields, fieldsOf (renderFields fields) = fields ↔ AreWritable fields) ∧
      ∀ text, AreWritable (fieldsOf text) ∧
        fieldsOf (renderFields (fieldsOf text)) = fieldsOf text :=
  ⟨fun _ => fieldsOf_renderFields_iff, fun text =>
    ⟨areWritable_fieldsOf text, fieldsOf_renderFields_iff.mpr (areWritable_fieldsOf text)⟩⟩

/-- A name that is declared twice, separators in a group and in a literal, a surplus closer and, in the
last of the fields, a literal that is never closed. -/
def exampleFields : List Field :=
  [⟨"a".toList, false, "[b, c]".toList⟩, ⟨"a".toList, true, ")".toList⟩,
    ⟨"d".toList, false, "\"e;\" | f".toList⟩, ⟨"g".toList, true, "'x; c: y".toList⟩]

/-- An object type with a surplus closer, a row that is no field and a literal that is never closed. -/
def exampleObject : Text :=
  "\x7b a: ); 42; b?: 'x; c: y \x7d".toList

theorem fieldsOf_undoes_renderFields_several :
    AreWritable exampleFields ∧ fieldsOf (renderFields exampleFields) = exampleFields ∧
      fieldsOf exampleObject =
        [⟨"a".toList, false, ")".toList⟩, ⟨"b".toList, true, "'x; c: y".toList⟩] ∧
      AreWritable (fieldsOf exampleObject) ∧
      fieldsOf (renderFields (fieldsOf exampleObject)) = fieldsOf exampleObject := by
  obtain ⟨undoes, read⟩ := fieldsOf_undoes_renderFields
  have writable : AreWritable exampleFields := by decide
  exact ⟨writable, (undoes exampleFields).mpr writable, by decide, read exampleObject⟩

end RouteCatalog
