import RouteCatalog.Proofs.Json.Number

/-!
# Reading written JSON

Reading a document gives the value back, for every value whose floating-point numbers are finite, whose
integers are not too long and whose lists and records are not nested too deep: `read?_write`. A
written value is read in front of everything that does not go on with a number, and twice its length
is fuel enough (`IsRead`); lists and records are read part by part.
-/

namespace RouteCatalog

namespace Json

/-- A value that is read again inside at most `depth` further lists and records: its floating-point
numbers are finite and its integers have not too many digits. -/
inductive IsReadable : (depth : Nat) → Value → Prop where
  | null {depth : Nat} : IsReadable depth .null
  | bool {depth : Nat} (flag : Bool) : IsReadable depth (.bool flag)
  | int {depth : Nat} {number : Int} (bounded : isTooLong number = false) :
      IsReadable depth (.int number)
  | float {depth : Nat} {number : Binary64} (finite : number.IsFinite) :
      IsReadable depth (.float number)
  | text {depth : Nat} (characters : Text) : IsReadable depth (.text characters)
  | emptyList {depth : Nat} : IsReadable depth (.list [])
  | emptyRecord {depth : Nat} : IsReadable depth (.record [])
  | list {depth : Nat} {items : List Value} (each : ∀ item ∈ items, IsReadable depth item) :
      IsReadable (depth + 1) (.list items)
  | record {depth : Nat} {entries : List (Text × Value)}
      (each : ∀ entry ∈ entries, IsReadable depth entry.2) : IsReadable (depth + 1) (.record entries)

/-- The value is read behind spaces and in front of everything that does not go on with a number, on
whatever level it is written, if there is fuel for twice its length. -/
def IsRead (style : FloatNotation) (depth : Nat) (value : Value) : Prop :=
  ∀ (level fuel : Nat) (gap rest : Text), gap.all isSpace = true → EndsNumber rest →
    2 * (writeAt style level value).length ≤ fuel →
      readValue? fuel depth (gap ++ (writeAt style level value ++ rest)) = some (value, rest)

section Spaces

variable {gap text : Text}

/-- Leading spaces are skipped. -/
theorem skipSpace_append (spaces : gap.all isSpace = true) :
    skipSpace (gap ++ text) = skipSpace text :=
  List.dropWhile_append_of_pos (List.all_eq_true.mp spaces)

theorem skipSpace_cons {first : Char} (mark : isSpace first = false) :
    skipSpace (first :: text) = first :: text := by
  simp [skipSpace, mark]

theorem all_isSpace_lineStart (level : Nat) : (lineStart level).all isSpace = true := by
  have feed : isSpace '\n' = true := by decide
  have space : isSpace ' ' = true := by decide
  simp [lineStart, feed, space]

end Spaces

section Values

variable {style : FloatNotation} {depth : Nat}

/-- What begins with neither a space nor a mark is read as a scalar. -/
theorem readValue?_of_scalar {fuel : Nat} {gap others : Text} {first : Char}
    {found : Value × Text} (spaces : gap.all isSpace = true) (enough : 0 < fuel)
    (space : isSpace first = false) (marks : first ≠ '"' ∧ first ≠ '[' ∧ first ≠ '{')
    (read : readScalar? (first :: others) = some found) :
    readValue? fuel depth (gap ++ first :: others) = some found := by
  obtain ⟨fuel, rfl⟩ := Nat.exists_eq_succ_of_ne_zero (Nat.pos_iff_ne_zero.mp enough)
  rw [readValue?, skipSpace_append spaces, skipSpace_cons space]
  simp only [if_neg marks.1, if_neg marks.2.1, if_neg marks.2.2, read]

/-- Null and the booleans are read from their names. -/
theorem isRead_null : IsRead style depth .null := by
  intro level fuel gap rest spaces _ enough
  have positive : 0 < fuel := Nat.lt_of_lt_of_le (by simp) enough
  exact readValue?_of_scalar spaces positive (by decide) (by decide) rfl

theorem isRead_bool (flag : Bool) : IsRead style depth (.bool flag) := by
  intro level fuel gap rest spaces _ enough
  cases flag with
  | false =>
    have positive : 0 < fuel := Nat.lt_of_lt_of_le (by simp) enough
    exact readValue?_of_scalar spaces positive (by decide) (by decide) rfl
  | true =>
    have positive : 0 < fuel := Nat.lt_of_lt_of_le (by simp) enough
    exact readValue?_of_scalar spaces positive (by decide) (by decide) rfl

/-- A number is read if it is read as a scalar. -/
theorem isRead_of_begins {value : Value} (begins : ∀ level, NumberBegins (writeAt style level value))
    (read : ∀ level rest, EndsNumber rest →
      readScalar? (writeAt style level value ++ rest) = some (value, rest)) :
    IsRead style depth value := by
  intro level fuel gap rest spaces ends enough
  obtain ⟨first, others, same, space, marks⟩ := (begins level).exists_cons
  have found := read level rest ends
  rw [same] at enough found ⊢
  exact readValue?_of_scalar spaces (Nat.lt_of_lt_of_le (by simp) enough) space marks found

/-- Integers are read. -/
theorem isRead_int {number : Int} (bounded : isTooLong number = false) :
    IsRead style depth (.int number) :=
  isRead_of_begins (fun _ => numberBegins_intText number) fun _ _ => readScalar?_intText bounded

/-- Finite floating-point numbers are read. -/
theorem isRead_float (bounded : style.firstScientific ≤ maxIntegerDigits) {number : Binary64}
    (finite : number.IsFinite) : IsRead style depth (.float number) :=
  isRead_of_begins (fun _ => numberBegins_binary64 bounded finite) fun _ _ =>
    readScalar?_binary64 bounded finite

/-- Texts are read. -/
theorem isRead_text (characters : Text) : IsRead style depth (.text characters) := by
  intro level fuel gap rest spaces _ enough
  have positive : 0 < fuel := Nat.lt_of_lt_of_le (by simp [quote]) enough
  obtain ⟨fuel, rfl⟩ := Nat.exists_eq_succ_of_ne_zero (Nat.pos_iff_ne_zero.mp positive)
  have written : writeAt style level (.text characters) ++ rest =
      '"' :: (quoteBody characters ++ '"' :: rest) := by
    simp [quote]
  rw [written, readValue?, skipSpace_append spaces, skipSpace_cons (by decide)]
  simp only [if_true, readQuoted?_quoteBody]
  rfl

/-- An empty list and an empty record are read at every depth. -/
theorem isRead_emptyList : IsRead style depth (.list []) := by
  intro level fuel gap rest spaces _ enough
  have positive : 0 < fuel := Nat.lt_of_lt_of_le (by simp [enclosed]) enough
  obtain ⟨fuel, rfl⟩ := Nat.exists_eq_succ_of_ne_zero (Nat.pos_iff_ne_zero.mp positive)
  have written : writeAt style level (.list []) ++ rest = '[' :: ']' :: rest := by
    simp [enclosed]
  have inside : skipSpace (']' :: rest) = ']' :: rest := skipSpace_cons (by decide)
  rw [written, readValue?, skipSpace_append spaces, skipSpace_cons (by decide)]
  simp [inside]

theorem isRead_emptyRecord : IsRead style depth (.record []) := by
  intro level fuel gap rest spaces _ enough
  have positive : 0 < fuel := Nat.lt_of_lt_of_le (by simp [enclosed]) enough
  obtain ⟨fuel, rfl⟩ := Nat.exists_eq_succ_of_ne_zero (Nat.pos_iff_ne_zero.mp positive)
  have written : writeAt style level (.record []) ++ rest = '{' :: '}' :: rest := by
    simp [enclosed]
  have inside : skipSpace ('}' :: rest) = '}' :: rest := skipSpace_cons (by decide)
  rw [written, readValue?, skipSpace_append spaces, skipSpace_cons (by decide)]
  simp [inside]

/-- What stands between the parts of a list or record, and behind the last, ends a number. -/
theorem endsNumber_comma (text : Text) : EndsNumber (',' :: text) := by
  intro first member
  obtain rfl : ',' = first := by simpa using member
  decide

theorem endsNumber_lineStart (level : Nat) (text : Text) : EndsNumber (lineStart level ++ text) := by
  intro first member
  obtain rfl : '\n' = first := by simpa [lineStart] using member
  decide

/-- A closing mark on its own line is found behind the spaces before it. -/
theorem skipSpace_lineStart (level : Nat) {mark : Char} (space : isSpace mark = false)
    (rest : Text) : skipSpace (lineStart level ++ mark :: rest) = mark :: rest := by
  rw [skipSpace_append (all_isSpace_lineStart level), skipSpace_cons space]

/-- The number of characters of parts. -/
def totalLength (parts : List Text) : Nat :=
  parts.flatten.length

/-- What is read has been written: without characters there would be no fuel. -/
theorem length_writeAt_pos {value : Value} (isRead : IsRead style depth value) (level : Nat) :
    0 < (writeAt style level value).length := by
  refine Nat.pos_of_ne_zero fun empty => ?_
  have read := isRead level 0 [] [] rfl (by simp [EndsNumber]) (by omega)
  rw [readValue?] at read
  cases read

/-- Where there is fuel for twice the lengths of parts and one more, there is fuel for twice the length
of the first, and after one step for those behind it. -/
theorem fuel_cons {part : Text} {parts : List Text} {fuel : Nat} (positive : 0 < part.length)
    (enough : 2 * totalLength (part :: parts) < fuel) :
    ∃ less, fuel = less + 1 ∧ 2 * part.length ≤ less ∧ 2 * totalLength parts < less := by
  obtain ⟨less, rfl⟩ := Nat.exists_eq_succ_of_ne_zero (Nat.ne_zero_of_lt enough)
  simp only [totalLength, List.flatten_cons, List.length_append] at enough ⊢
  exact ⟨less, rfl, by omega, by omega⟩

/-- An item in front of the closing bracket is the last one. -/
theorem readItems?_of_bracket {fuel : Nat} {item : Value} {text following rest : Text}
    (read : readValue? fuel depth text = some (item, following))
    (closed : skipSpace following = ']' :: rest) :
    readItems? (fuel + 1) depth text = some ([item], rest) := by
  simp only [readItems?, read, closed]

/-- An item in front of a comma comes before the items behind the comma. -/
theorem readItems?_of_comma {fuel : Nat} {item : Value} {items : List Value}
    {text following rest : Text} (read : readValue? fuel depth text = some (item, ',' :: following))
    (others : readItems? fuel depth following = some (items, rest)) :
    readItems? (fuel + 1) depth text = some (item :: items, rest) := by
  simp only [readItems?, read, skipSpace_cons (by decide : isSpace ',' = false), others,
    Option.map_some]

/-- The items of a list are read one after the other, if there is fuel for twice their lengths and
one more. -/
theorem readItems?_written {item : Value} {items : List Value}
    (each : ∀ other ∈ item :: items, IsRead style depth other) {level close fuel : Nat}
    {gap rest : Text} (spaces : gap.all isSpace = true)
    (enough : 2 * totalLength (writeItems style level (item :: items)) < fuel) :
    readItems? fuel depth (gap ++
      (Text.join (',' :: lineStart level) (writeItems style level (item :: items)) ++
        (lineStart close ++ ']' :: rest))) = some (item :: items, rest) := by
  induction items generalizing item gap fuel with
  | nil =>
    have isRead : IsRead style depth item := each item (by simp)
    obtain ⟨fuel, rfl, fits, -⟩ := fuel_cons (length_writeAt_pos isRead level) enough
    exact readItems?_of_bracket
      (isRead level fuel gap _ spaces (endsNumber_lineStart close (']' :: rest)) fits)
      (skipSpace_lineStart close (by decide) rest)
  | cons next items inductionHypothesis =>
    have isRead : IsRead style depth item := each item (by simp)
    obtain ⟨fuel, rfl, fits, fuelRest⟩ := fuel_cons (length_writeAt_pos isRead level) enough
    have others := inductionHypothesis
      (fun other member => each other (List.mem_cons_of_mem _ member))
      (all_isSpace_lineStart level) fuelRest
    refine readItems?_of_comma ?_ others
    have read := isRead level fuel gap _ spaces (endsNumber_comma (lineStart level ++
      (Text.join (',' :: lineStart level) (writeItems style level (next :: items)) ++
        (lineStart close ++ ']' :: rest)))) fits
    simpa [Text.join] using read

/-- A key is read behind spaces, with the colon behind it. -/
theorem readKey?_quote {gap : Text} (spaces : gap.all isSpace = true) (key rest : Text) :
    readEntries?.readKey? (gap ++ (quote key ++ ':' :: rest)) = some (key, rest) := by
  have written : quote key ++ ':' :: rest = '"' :: (quoteBody key ++ '"' :: ':' :: rest) := by
    simp [quote]
  rw [written, readEntries?.readKey?, skipSpace_append spaces, skipSpace_cons (by decide)]
  simp only [readQuoted?_quoteBody, skipSpace_cons (by decide : isSpace ':' = false)]

/-- An entry in front of the closing brace is the last one. -/
theorem readEntries?_of_brace {fuel : Nat} {key : Text} {value : Value}
    {text behind following rest : Text} (readKey : readEntries?.readKey? text = some (key, behind))
    (read : readValue? fuel depth behind = some (value, following))
    (closed : skipSpace following = '}' :: rest) :
    readEntries? (fuel + 1) depth text = some ([(key, value)], rest) := by
  simp only [readEntries?, readKey, read, closed]

/-- An entry in front of a comma comes before the entries behind the comma. -/
theorem readEntries?_of_comma {fuel : Nat} {key : Text} {value : Value}
    {entries : List (Text × Value)} {text behind following rest : Text}
    (readKey : readEntries?.readKey? text = some (key, behind))
    (read : readValue? fuel depth behind = some (value, ',' :: following))
    (others : readEntries? fuel depth following = some (entries, rest)) :
    readEntries? (fuel + 1) depth text = some ((key, value) :: entries, rest) := by
  simp only [readEntries?, readKey, read, skipSpace_cons (by decide : isSpace ',' = false), others,
    Option.map_some]

/-- A value is read behind its key, in front of what ends a number, if there is fuel for the entry. -/
theorem readValue?_of_entry {value : Value} (isRead : IsRead style depth value) {level fuel : Nat}
    {key following : Text} (ends : EndsNumber following)
    (enough : 2 * (quote key ++ ": ".toList ++ writeAt style level value).length ≤ fuel) :
    readValue? fuel depth (' ' :: (writeAt style level value ++ following)) =
      some (value, following) := by
  have space : List.all [' '] isSpace = true := by decide
  simp only [List.length_append] at enough
  exact isRead level fuel [' '] following space ends (by omega)

/-- The entries of a record are read one after the other, if there is fuel for twice their lengths
and one more. -/
theorem readEntries?_written {entry : Text × Value} {entries : List (Text × Value)}
    (each : ∀ other ∈ entry :: entries, IsRead style depth other.2) {level close fuel : Nat}
    {gap rest : Text} (spaces : gap.all isSpace = true)
    (enough : 2 * totalLength (writeEntries style level (entry :: entries)) < fuel) :
    readEntries? fuel depth (gap ++
      (Text.join (',' :: lineStart level) (writeEntries style level (entry :: entries)) ++
        (lineStart close ++ '}' :: rest))) = some (entry :: entries, rest) := by
  induction entries generalizing entry gap fuel with
  | nil =>
    obtain ⟨key, value⟩ := entry
    have isRead : IsRead style depth value := each (key, value) (by simp)
    obtain ⟨fuel, rfl, fits, -⟩ := fuel_cons (by simp) enough
    have readKey := readKey?_quote spaces key
      (' ' :: (writeAt style level value ++ (lineStart close ++ '}' :: rest)))
    exact readEntries?_of_brace (by simpa [Text.join] using readKey)
      (readValue?_of_entry isRead (endsNumber_lineStart close ('}' :: rest)) fits)
      (skipSpace_lineStart close (by decide) rest)
  | cons next entries inductionHypothesis =>
    obtain ⟨key, value⟩ := entry
    have isRead : IsRead style depth value := each (key, value) (by simp)
    obtain ⟨fuel, rfl, fits, fuelRest⟩ := fuel_cons (by simp) enough
    have others := inductionHypothesis
      (fun other member => each other (List.mem_cons_of_mem _ member))
      (all_isSpace_lineStart level) fuelRest
    have readKey := readKey?_quote spaces key (' ' :: (writeAt style level value ++
      (',' :: (lineStart level ++
        (Text.join (',' :: lineStart level) (writeEntries style level (next :: entries)) ++
          (lineStart close ++ '}' :: rest))))))
    exact readEntries?_of_comma (by simpa [Text.join] using readKey)
      (readValue?_of_entry isRead (endsNumber_comma _) fits) others

/-- The parts are not longer than what they are joined to. -/
theorem totalLength_le (separator : Text) (parts : List Text) :
    totalLength parts ≤ (Text.join separator parts).length := by
  fun_induction Text.join separator parts with
  | case1 => exact Nat.le_refl 0
  | case2 part => simp [totalLength]
  | case3 part next rest inductionHypothesis =>
    simp only [totalLength, List.flatten_cons, List.length_append] at inductionHypothesis ⊢
    omega

/-- The first mark of what is read is not the end of a list. -/
theorem skipSpace_ne_bracket {value : Value} (isRead : IsRead style depth value) (level : Nat)
    {gap rest : Text} (spaces : gap.all isSpace = true) (ends : EndsNumber rest) :
    ∀ following, skipSpace (gap ++ (writeAt style level value ++ rest)) ≠ ']' :: following := by
  intro following bracket
  have read := isRead level (2 * (writeAt style level value).length + 1) gap rest spaces ends
    (Nat.le_succ _)
  rw [readValue?, bracket] at read
  have nothing : readScalar? (']' :: following) = none := rfl
  simp [nothing] at read

/-- What stands behind the opening mark of parts: each on its line, and the closing mark on its own. -/
def partsText (level : Nat) (closing : Char) (parts : List Text) : Text :=
  lineStart (level + 1) ++
    (Text.join (',' :: lineStart (level + 1)) parts ++ (lineStart level ++ [closing]))

theorem enclosed_eq {opening closing : Char} {level : Nat} {part : Text} {parts : List Text} :
    enclosed opening closing level (part :: parts) =
      opening :: partsText level closing (part :: parts) := by
  simp [enclosed, partsText]

/-- There is fuel for the parts if there is fuel for the list or record. -/
theorem fuel_of_enclosed {opening closing : Char} {level fuel : Nat} {part : Text}
    {parts : List Text}
    (enough : 2 * (enclosed opening closing level (part :: parts)).length ≤ fuel) :
    ∃ less, fuel = less + 1 ∧ 2 * totalLength (part :: parts) < less := by
  have bound := totalLength_le (',' :: lineStart (level + 1)) (part :: parts)
  rw [enclosed_eq] at enough
  simp only [partsText, List.length_cons, List.length_append] at enough
  exact ⟨fuel - 1, by omega, by omega⟩

/-- Behind its opening mark, a list or record goes on with its parts. -/
theorem skipSpace_enclosed {opening closing : Char} {level : Nat} {part : Text} {parts : List Text}
    {gap rest : Text} (spaces : gap.all isSpace = true) (space : isSpace opening = false) :
    skipSpace (gap ++ (enclosed opening closing level (part :: parts) ++ rest)) =
      opening :: (partsText level closing (part :: parts) ++ rest) := by
  rw [skipSpace_append spaces, enclosed_eq, List.cons_append, skipSpace_cons space]

/-- A list of items that are read is read, one level deeper. -/
theorem isRead_list {item : Value} {items : List Value}
    (each : ∀ other ∈ item :: items, IsRead style depth other) :
    IsRead style (depth + 1) (.list (item :: items)) := by
  intro level fuel gap rest spaces _ enough
  rw [writeAt_list, writeItems_cons] at enough ⊢
  obtain ⟨fuel, rfl, less⟩ := fuel_of_enclosed enough
  have read : readItems? fuel depth (partsText level ']'
      (writeItems style (level + 1) (item :: items)) ++ rest) = some (item :: items, rest) := by
    simpa [partsText] using readItems?_written each (all_isSpace_lineStart (level + 1)) less
  have noBracket : ∀ following, skipSpace (partsText level ']'
      (writeItems style (level + 1) (item :: items)) ++ rest) ≠ ']' :: following := by
    have first : IsRead style depth item := each item (by simp)
    cases items with
    | nil =>
      have apart := skipSpace_ne_bracket first (level + 1) (all_isSpace_lineStart (level + 1))
        (endsNumber_lineStart level (']' :: rest))
      simpa [partsText, Text.join] using apart
    | cons next items =>
      have apart := skipSpace_ne_bracket first (level + 1) (all_isSpace_lineStart (level + 1))
        (endsNumber_comma (lineStart (level + 1) ++ (Text.join (',' :: lineStart (level + 1))
          (writeItems style (level + 1) (next :: items)) ++ (lineStart level ++ ']' :: rest))))
      simpa [partsText, Text.join] using apart
  rw [writeItems_cons] at read noBracket
  rw [readValue?, skipSpace_enclosed spaces (by decide)]
  simp only [(by decide : '[' ≠ '"'), if_false, if_true, read]
  rfl

/-- A record of values that are read is read, one level deeper. -/
theorem isRead_record {entry : Text × Value} {entries : List (Text × Value)}
    (each : ∀ other ∈ entry :: entries, IsRead style depth other.2) :
    IsRead style (depth + 1) (.record (entry :: entries)) := by
  intro level fuel gap rest spaces _ enough
  obtain ⟨key, value⟩ := entry
  rw [writeAt_record, writeEntries_cons] at enough ⊢
  obtain ⟨fuel, rfl, less⟩ := fuel_of_enclosed enough
  have read : readEntries? fuel depth (partsText level '}'
      (writeEntries style (level + 1) ((key, value) :: entries)) ++ rest) =
        some ((key, value) :: entries, rest) := by
    simpa [partsText] using readEntries?_written each (all_isSpace_lineStart (level + 1)) less
  have noBrace : ∀ following, skipSpace (partsText level '}'
      (writeEntries style (level + 1) ((key, value) :: entries)) ++ rest) ≠ '}' :: following := by
    intro following
    have mark : isSpace '"' = false := by decide
    rw [partsText, List.append_assoc, skipSpace_append (all_isSpace_lineStart (level + 1))]
    cases entries <;> simp [Text.join, quote, skipSpace_cons mark]
  rw [writeEntries_cons] at read noBrace
  rw [readValue?, skipSpace_enclosed spaces (by decide)]
  simp only [(by decide : '{' ≠ '"'), (by decide : '{' ≠ '['), if_false, if_true, read]
  rfl

/-- Every readable value is read from what a document has of it. -/
theorem IsReadable.isRead {value : Value} (readable : IsReadable depth value) :
    IsRead documentNotation depth value := by
  induction readable with
  | null => exact isRead_null
  | bool flag => exact isRead_bool flag
  | int bounded => exact isRead_int bounded
  | float finite => exact isRead_float (by decide) finite
  | text characters => exact isRead_text characters
  | emptyList => exact isRead_emptyList
  | emptyRecord => exact isRead_emptyRecord
  | @list depth items _ inductionHypothesis =>
    cases items with
    | nil => exact isRead_emptyList
    | cons item items => exact isRead_list inductionHypothesis
  | @record depth entries _ inductionHypothesis =>
    cases entries with
    | nil => exact isRead_emptyRecord
    | cons entry entries => exact isRead_record inductionHypothesis

end Values

/-- Reading the document of a readable value gives the value. -/
theorem read?_write {value : Value} (readable : IsReadable maxDepth value) :
    read? (write documentNotation value) = some value := by
  have isRead : IsRead documentNotation maxDepth value := readable.isRead
  have read : readValue? (2 * (write documentNotation value).length + 2) maxDepth
      (write documentNotation value) = some (value, []) := by
    simpa [write] using isRead 0 (2 * (write documentNotation value).length + 2) [] [] rfl
      (by simp [EndsNumber]) (Nat.le_add_right _ 2)
  rw [read?, read]
  rfl

end Json

end RouteCatalog
