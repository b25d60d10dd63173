import RouteCatalog.Proofs.Catalog.Extracted

/-!
# Integers in documents

No integer in a JSON text has more digits than an integer may have (`isBounded_of_read?`), and what
else is taken for an integer has not either. So the rate limits of a catalog that is read from a
document can be written: `Catalog.isBounded_of_read`.
-/

namespace RouteCatalog

/-- No integer in the value has too many digits. -/
inductive Value.IsBounded : Value → Prop where
  | null : IsBounded .null
  | bool (flag : Bool) : IsBounded (.bool flag)
  | int {number : Int} (bounded : isTooLong number = false) : IsBounded (.int number)
  | float (number : Binary64) : IsBounded (.float number)
  | text (characters : Text) : IsBounded (.text characters)
  | list {items : List Value} (each : ∀ item ∈ items, IsBounded item) : IsBounded (.list items)
  | record {entries : List (Text × Value)} (each : ∀ entry ∈ entries, IsBounded entry.2) :
      IsBounded (.record entries)

namespace Json

variable {text following : Text} {value : Value}

/-- The digits of ASCII digits are no more than these. -/
theorem isTooLong_asciiDigitsValue (negative : Bool) {digits : Text}
    (few : digits.length ≤ maxIntegerDigits) :
    isTooLong (signedInt negative (asciiDigitsValue digits)) = false := by
  have decimal : ∀ digit ∈ digits.filterMap digitValue?, digit < 10 := by
    intro digit member
    obtain ⟨character, -, denotes⟩ := List.mem_filterMap.mp member
    exact digitValue?_lt denotes
  rw [asciiDigitsValue]
  exact isTooLong_signedInt negative decimal ((List.length_filterMap_le _ _).trans few)

theorem isBounded_of_readUnsigned? {negative : Bool}
    (read : readUnsigned? negative text = some (value, following)) : value.IsBounded := by
  unfold readUnsigned? at read
  obtain ⟨⟨whole, rest⟩, -, read⟩ := Option.bind_eq_some_iff.mp read
  obtain ⟨⟨fraction, rest⟩, -, read⟩ := Option.bind_eq_some_iff.mp read
  obtain ⟨⟨power, rest⟩, -, read⟩ := Option.bind_eq_some_iff.mp read
  dsimp only at read
  by_cases many : maxIntegerDigits < whole.length
  · rw [if_pos many] at read
    cases read
  · rw [if_neg many] at read
    split at read
    · obtain ⟨rfl, -⟩ := Prod.mk.inj (Option.some.inj read)
      exact .int (isTooLong_asciiDigitsValue _ (Nat.not_lt.mp many))
    · obtain ⟨rfl, -⟩ := Prod.mk.inj (Option.some.inj read)
      exact .float _

theorem isBounded_of_readNumber? (read : readNumber? text = some (value, following)) :
    value.IsBounded := by
  obtain ⟨negative, body, same⟩ : ∃ negative body, readNumber? text = readUnsigned? negative body := by
    cases text with
    | nil => exact ⟨false, [], rfl⟩
    | cons first rest =>
      by_cases minus : first = '-'
      · exact ⟨true, rest, by rw [minus]; rfl⟩
      · exact ⟨false, first :: rest, readNumber?_sign false (by simpa using minus)⟩
  exact isBounded_of_readUnsigned? (same ▸ read)

theorem isBounded_of_readScalar? (read : readScalar? text = some (value, following)) :
    value.IsBounded := by
  unfold readScalar? at read
  split at read
  · rename_i named
    obtain rfl := Option.some.inj read
    obtain ⟨⟨name, held⟩, member, found⟩ := List.exists_of_findSome?_eq_some named
    obtain ⟨rest, -, same⟩ := Option.map_eq_some_iff.mp found
    obtain ⟨rfl, -⟩ := Prod.mk.inj same
    have all : ∀ entry ∈ names, entry.2.IsBounded := by
      simp only [names, List.forall_mem_cons, List.not_mem_nil, false_imp_iff, implies_true, and_true]
      exact ⟨.null, .bool _, .bool _, .float _, .float _, .float _⟩
    exact all _ member
  · exact isBounded_of_readNumber? read

/-- No value, item or entry that is read with the fuel holds an integer with too many digits. -/
structure ReadsBounded (fuel : Nat) : Prop where
  value : ∀ {depth text value following},
    readValue? fuel depth text = some (value, following) → value.IsBounded
  items : ∀ {depth text items following},
    readItems? fuel depth text = some (items, following) → ∀ item ∈ items, Value.IsBounded item
  entries : ∀ {depth text entries following},
    readEntries? fuel depth text = some (entries, following) →
      ∀ entry ∈ entries, Value.IsBounded entry.2

namespace ReadsBounded

variable {fuel depth : Nat}

/-- A value is a text, a list or record whose items or entries are read with less fuel, or a scalar. -/
theorem value_succ (reads : ReadsBounded fuel)
    (read : readValue? (fuel + 1) depth text = some (value, following)) : value.IsBounded := by
  rw [readValue?.eq_def] at read
  dsimp only at read
  split at read
  · cases read
  split at read
  · obtain ⟨_, -, same⟩ := Option.map_eq_some_iff.mp read
    obtain ⟨rfl, -⟩ := Prod.mk.inj same
    exact .text _
  split at read
  · split at read
    · obtain ⟨rfl, -⟩ := Prod.mk.inj (Option.some.inj read)
      exact .list (by simp)
    · cases read
    · obtain ⟨_, found, same⟩ := Option.map_eq_some_iff.mp read
      obtain ⟨rfl, -⟩ := Prod.mk.inj same
      exact .list (reads.items found)
  split at read
  · split at read
    · obtain ⟨rfl, -⟩ := Prod.mk.inj (Option.some.inj read)
      exact .record (by simp)
    · cases read
    · obtain ⟨_, found, same⟩ := Option.map_eq_some_iff.mp read
      obtain ⟨rfl, -⟩ := Prod.mk.inj same
      exact .record (reads.entries found)
  · exact isBounded_of_readScalar? read

/-- Items are a first one and, behind a comma, further ones. -/
theorem items_succ (reads : ReadsBounded fuel) {items : List Value}
    (read : readItems? (fuel + 1) depth text = some (items, following)) :
    ∀ item ∈ items, Value.IsBounded item := by
  rw [readItems?.eq_def] at read
  dsimp only at read
  split at read
  · cases read
  · rename_i first _ readFirst
    split at read
    · obtain ⟨_, found, same⟩ := Option.map_eq_some_iff.mp read
      obtain ⟨rfl, -⟩ := Prod.mk.inj same
      exact List.forall_mem_cons.mpr ⟨reads.value readFirst, reads.items found⟩
    · obtain ⟨rfl, -⟩ := Prod.mk.inj (Option.some.inj read)
      exact List.forall_mem_singleton.mpr (reads.value readFirst)
    · cases read

/-- Entries are a first one and, behind a comma, further ones. -/
theorem entries_succ (reads : ReadsBounded fuel) {entries : List (Text × Value)}
    (read : readEntries? (fuel + 1) depth text = some (entries, following)) :
    ∀ entry ∈ entries, Value.IsBounded entry.2 := by
  rw [readEntries?.eq_def] at read
  dsimp only at read
  split at read
  · cases read
  split at read
  · cases read
  · rename_i first _ readFirst
    split at read
    · obtain ⟨_, found, same⟩ := Option.map_eq_some_iff.mp read
      obtain ⟨rfl, -⟩ := Prod.mk.inj same
      exact List.forall_mem_cons.mpr ⟨reads.value readFirst, reads.entries found⟩
    · obtain ⟨rfl, -⟩ := Prod.mk.inj (Option.some.inj read)
      exact List.forall_mem_singleton.mpr (reads.value readFirst)
    · cases read

end ReadsBounded

/-- With whatever fuel, what is read holds no integer with too many digits. -/
theorem readsBounded (fuel : Nat) : ReadsBounded fuel := by
  induction fuel with
  | zero => exact ⟨nofun, nofun, nofun⟩
  | succ fuel inductionHypothesis =>
    exact ⟨inductionHypothesis.value_succ, inductionHypothesis.items_succ,
      inductionHypothesis.entries_succ⟩

/-- No integer in a JSON text has too many digits. -/
theorem isBounded_of_read? (read : read? text = some value) : value.IsBounded := by
  unfold read? at read
  split at read
  · rename_i found
    split at read
    · obtain rfl := Option.some.inj read
      exact (readsBounded _).value found
    · cases read
  · cases read

end Json

section Checked

namespace Checked

variable {α β : Type}

theorem seq_eq_valid_iff {makes : Checked (α → β)} {part : Checked α} {made : β} :
    (makes <*> part) = .valid made ↔
      ∃ make value, makes = .valid make ∧ part = .valid value ∧ make value = made := by
  have applied : (makes <*> part) = Checked.apply makes fun _ => part := rfl
  rw [applied]
  cases makes <;> cases part <;> simp [Checked.apply]

theorem map_eq_valid_iff {make : α → β} {part : Checked α} {made : β} :
    part.map make = .valid made ↔ ∃ value, part = .valid value ∧ make value = made := by
  cases part <;> simp [map]

theorem fmap_eq_valid_iff {make : α → β} {part : Checked α} {made : β} :
    (make <$> part) = .valid made ↔ ∃ value, part = .valid value ∧ make value = made :=
  seq_eq_valid_iff.trans (by simp)

theorem within_eq_valid_iff {part : Checked α} {step : Step} {value : α} :
    part.within step = .valid value ↔ part = .valid value := by
  cases part <;> simp [within]

/-- Every item of a checked list comes from one that is checked. -/
theorem exists_of_mem_itemsFrom {check : β → Checked α} {position : Nat} {list : List β}
    {checked : List α} (valid : itemsFrom check position list = .valid checked) {item : α}
    (member : item ∈ checked) : ∃ origin ∈ list, check origin = .valid item := by
  induction list generalizing position checked with
  | nil =>
    cases valid
    cases member
  | cons first rest inductionHypothesis =>
    obtain ⟨_, others, begins, validRest, rfl⟩ := seq_eq_valid_iff.mp valid
    obtain ⟨head, validFirst, rfl⟩ := map_eq_valid_iff.mp begins
    rcases List.mem_cons.mp member with rfl | member
    · exact ⟨first, List.mem_cons_self, within_eq_valid_iff.mp validFirst⟩
    · obtain ⟨origin, inRest, made⟩ := inductionHypothesis validRest member
      exact ⟨origin, List.mem_cons_of_mem first inRest, made⟩

end Checked

variable {α : Type} {value : Value}

/-- A field with a default has it, or is checked from an entry. -/
theorem eq_or_exists_of_optionalField {entries : List (Text × Value)} {name : Text} {default : α}
    {check : Value → Checked α} {made : α}
    (valid : optionalField entries name default check = .valid made) :
    made = default ∨ ∃ value, (name, value) ∈ entries ∧ check value = .valid made := by
  unfold optionalField at valid
  split at valid
  · exact .inr ⟨_, mem_of_lastOf? ‹_›, Checked.within_eq_valid_iff.mp valid⟩
  · cases valid
    exact .inl rfl

/-- A model is checked from a record. -/
theorem exists_of_checkModel {check : List (Text × Value) → Checked α} {made : α}
    (valid : checkModel check value = .valid made) :
    ∃ entries, value = .record entries ∧ check entries = .valid made := by
  unfold checkModel at valid
  split at valid
  · exact ⟨_, rfl, valid⟩
  · cases valid

/-- Every signature of a page is checked from a part of the pages. -/
theorem exists_of_mem_checkPages {check : Value → Checked α} {pages : List (Text × Value)}
    {checked : List (Text × List α)} (valid : checkPages check pages = .valid checked)
    {page : Text × List α} (member : page ∈ checked) :
    ∃ items, (page.1, Value.list items) ∈ pages ∧
      ∀ signature ∈ page.2, ∃ item ∈ items, check item = .valid signature := by
  induction pages generalizing checked with
  | nil =>
    cases valid
    cases member
  | cons first rest inductionHypothesis =>
    obtain ⟨name, signatures⟩ := first
    obtain ⟨_, others, begins, validRest, rfl⟩ := Checked.seq_eq_valid_iff.mp valid
    obtain ⟨head, validFirst, rfl⟩ := Checked.map_eq_valid_iff.mp begins
    rw [Checked.within_eq_valid_iff] at validFirst
    rcases List.mem_cons.mp member with rfl | member
    · cases signatures with
      | list items =>
        exact ⟨items, List.mem_cons_self, fun signature inPage =>
          Checked.exists_of_mem_itemsFrom validFirst inPage⟩
      | _ => cases validFirst
    · obtain ⟨items, inRest, each⟩ := inductionHypothesis validRest member
      exact ⟨items, List.mem_cons_of_mem _ inRest, each⟩

end Checked

section Limits

variable {value : Value} {number : Int}

/-- An integer within the bound of those that floating-point numbers are taken for is short. -/
theorem isTooLong_of_within (above : -wideBound < number) (below : number < wideBound) :
    isTooLong number = false := by
  have small : number.natAbs < 10 ^ maxIntegerDigits := by
    have magnitude : number.natAbs < 10 ^ 19 := by
      unfold wideBound at above below
      omega
    exact magnitude.trans_le (Nat.pow_le_pow_right (by decide) (by decide))
  rw [isTooLong, decide_eq_false_iff_not, Nat.not_lt, natText,
    Nat.length_toDigits_le_iff (by decide) (by decide)]
  exact small

theorem isTooLong_of_integerOfFloat {float : Binary64} (taken : integerOfFloat float = .valid number) :
    isTooLong number = false := by
  unfold integerOfFloat at taken
  split at taken
  · split at taken
    · cases taken
    · split at taken
      · cases taken
        exact isTooLong_of_within (And.left ‹_›) (And.right ‹_›)
      · cases taken
  · cases taken

theorem isTooLong_of_plainInteger {text : Text} (taken : plainInteger text = .valid number) :
    isTooLong number = false := by
  unfold plainInteger at taken
  split at taken
  rename_i negative body _
  dsimp only at taken
  split at taken
  · cases taken
  split at taken
  · cases taken
  · rename_i few
    split at taken
    · cases taken
    · cases taken
      exact isTooLong_signedInt _ (fun digit => lt_of_mem_leadingDigits)
        (((List.length_filterMap_le _ _).trans (List.takeWhile_sublist _).length_le).trans
          (Nat.not_lt.mp few))

/-- No integer that a value is taken for has too many digits, if none in the value has. -/
theorem isTooLong_of_asInteger (bounded : value.IsBounded) (taken : asInteger value = .valid number) :
    isTooLong number = false := by
  cases bounded with
  | int short =>
    cases taken
    exact short
  | bool flag =>
    cases taken
    cases flag <;> decide
  | float float => exact isTooLong_of_integerOfFloat taken
  | text characters =>
    simp only [asInteger, integerOfText] at taken
    split at taken
    · cases taken
    · exact isTooLong_of_plainInteger taken
  | _ => cases taken

theorem isBounded_of_asRateLimit (bounded : value.IsBounded) {limit : RateLimit}
    (taken : asRateLimit value = .valid limit) : limit.IsBounded := by
  unfold asRateLimit at taken
  split at taken
  · cases taken
    trivial
  split at taken
  · cases taken
    trivial
  split at taken
  · rename_i requests found
    cases taken
    exact isTooLong_of_asInteger bounded found
  · cases taken

theorem isBounded_of_asEndpoint (bounded : value.IsBounded) {endpoint : Endpoint}
    (taken : asEndpoint value = .valid endpoint) : endpoint.rateLimit.IsBounded := by
  obtain ⟨entries, rfl, valid⟩ := exists_of_checkModel taken
  simp only [Checked.seq_eq_valid_iff, Checked.fmap_eq_valid_iff] at valid
  obtain ⟨_, limit, ⟨_, _, ⟨_, _, ⟨_, _, ⟨_, _, ⟨_, _, ⟨_, _, ⟨_, _, ⟨_, -, rfl⟩, -, rfl⟩, -, rfl⟩, -,
    rfl⟩, -, rfl⟩, -, rfl⟩, -, rfl⟩, -, rfl⟩, found, rfl⟩ := valid
  rcases eq_or_exists_of_optionalField found with rfl | ⟨value, member, taken⟩
  · trivial
  · cases bounded with
    | record each => exact isBounded_of_asRateLimit (each _ member) taken

theorem isBounded_of_asPages (bounded : value.IsBounded) {pages : List (Text × List Endpoint)}
    (taken : asPages asEndpoint value = .valid pages) {page : Text × List Endpoint}
    (inPages : page ∈ pages) {endpoint : Endpoint} (inPage : endpoint ∈ page.2) :
    endpoint.rateLimit.IsBounded := by
  cases bounded with
  | record each =>
    obtain ⟨checked, valid, rfl⟩ := Checked.map_eq_valid_iff.mp taken
    have member := mem_of_lastOf? (lastOf?_of_mem_collapse inPages)
    obtain ⟨items, inEntries, ofItems⟩ := exists_of_mem_checkPages valid member
    obtain ⟨item, inItems, made⟩ := ofItems endpoint inPage
    cases each _ inEntries with
    | list eachItem => exact isBounded_of_asEndpoint (eachItem item inItems) made
  | _ => cases taken

/-- No rate limit of a catalog that is read from a document has too many digits. -/
theorem Catalog.isBounded_of_read {document : Text} {catalog : Catalog}
    (read : Catalog.read document = .ok catalog) :
    ∀ page ∈ catalog.endpoints, ∀ endpoint ∈ page.2, endpoint.rateLimit.IsBounded := by
  unfold Catalog.read at read
  split at read
  · rename_i value found
    have bounded := Json.isBounded_of_read? found
    cases checked : asCatalog value with
    | faulty issues =>
      rw [checked] at read
      cases read
    | valid taken =>
      rw [checked] at read
      obtain rfl := Except.ok.inj read
      obtain ⟨entries, rfl, valid⟩ := exists_of_checkModel checked
      simp only [Checked.seq_eq_valid_iff, Checked.fmap_eq_valid_iff] at valid
      obtain ⟨_, broadcasts, ⟨endpoints, found, rfl⟩, -, rfl⟩ := valid
      rcases eq_or_exists_of_optionalField found with rfl | ⟨pages, member, found⟩
      · simp
      · cases bounded with
        | record each => exact fun page inPages endpoint inPage =>
            isBounded_of_asPages (each _ member) found inPages inPage
  · cases read

end Limits

end RouteCatalog
