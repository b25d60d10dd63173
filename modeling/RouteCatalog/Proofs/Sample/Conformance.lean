import RouteCatalog.Proofs.Keyed
import RouteCatalog.Proofs.Sample.Forms
import RouteCatalog.Proofs.Sample.Sampling

/-!
# Examples conform to their types

For a type expression that is understood, whatever the source of randomness answers, sampling gives a
value that conforms to the type: `sampleValue_conforms`. Each form gives what conforms if its parts do
(the lemmas `samples_*`), with one unit of fuel more than they need; that is put together along the
syntax, where every part is written shorter than the whole.
-/

namespace RouteCatalog

/-- The value conforms to the word. -/
inductive ScalarWord.Conforms : ScalarWord → Value → Prop where
  | string {number : Nat} (bounded : number ≤ 9999) :
      Conforms .string (.text ("example-".toList ++ natText number))
  | number {number : Nat} (bounded : number < 100) : Conforms .number (.int number)
  | boolean (flag : Bool) : Conforms .boolean (.bool flag)
  | yes : Conforms .yes (.bool true)
  | no : Conforms .no (.bool false)
  | null : Conforms .null .null
  | undefined : Conforms .undefined .null

mutual

/-- The value conforms to the branch. -/
inductive BranchSyntax.Conforms : BranchSyntax → Value → Prop where
  | word {scalar : ScalarWord} {value : Value} (conforms : scalar.Conforms value) :
      BranchSyntax.Conforms (.word scalar) value
  | quoted (literal : QuotedLiteral) : BranchSyntax.Conforms (.quoted literal) (.text literal.content)
  | integer (literal : IntegerLiteral) : BranchSyntax.Conforms (.integer literal) (.int literal.value)
  | array {item : BranchSyntax} {first second : Value} (one : item.Conforms first)
      (other : item.Conforms second) : BranchSyntax.Conforms (.array item) (.list [first, second])
  | generic {readonly : Bool} {item : BranchSyntax} {first second : Value}
      (one : item.Conforms first) (other : item.Conforms second) :
      BranchSyntax.Conforms (.generic readonly item) (.list [first, second])
  | group {front back : Gap} {inner : TypeSyntax} {value : Value} (inside : inner.Conforms value) :
      BranchSyntax.Conforms (.group front inner back) value
  | object {fields : FieldsSyntax} {entries : List (Text × Value)}
      (each : FieldsConform fields.declared entries) :
      BranchSyntax.Conforms (.object fields) (.record entries)

/-- The value conforms to the type: to a branch of a union that does not stand for nothing, if it has
one. -/
inductive TypeSyntax.Conforms : TypeSyntax → Value → Prop where
  | single {branch : BranchSyntax} {value : Value} (conforms : branch.Conforms value) :
      TypeSyntax.Conforms (.single branch) value
  | branch {type : TypeSyntax} {branch : BranchSyntax} {value : Value}
      (member : branch ∈ type.branches) (stands : branch.isNothing = false)
      (conforms : branch.Conforms value) : TypeSyntax.Conforms type value
  | nothing {type : TypeSyntax} (all : ∀ branch ∈ type.branches, branch.isNothing = true) :
      TypeSyntax.Conforms type .null

/-- The entries are those of the fields in their order; an optional field may have none. -/
inductive FieldsConform : List (FieldHead × TypeSyntax) → List (Text × Value) → Prop where
  | nil : FieldsConform [] []
  | present {head : FieldHead} {type : TypeSyntax} {value : Value}
      {rest : List (FieldHead × TypeSyntax)} {entries : List (Text × Value)}
      (conforms : type.Conforms value) (others : FieldsConform rest entries) :
      FieldsConform ((head, type) :: rest) ((head.key.text, value) :: entries)
  | absent {head : FieldHead} {type : TypeSyntax} {rest : List (FieldHead × TypeSyntax)}
      {entries : List (Text × Value)} (optional : head.optional.isSome = true)
      (others : FieldsConform rest entries) : FieldsConform ((head, type) :: rest) entries

end

section Scalar

variable {source : RandomSource} {now : Instant}

open Sampling

/-- A word gives a value of its own. -/
theorem yields_word (scalar : ScalarWord) :
    Yields (sampleScalar now scalar.text : Sampling source Value) scalar.Conforms := by
  cases scalar with
  | string => exact (yields_between (by decide)).bind fun number bounds => .pure (.string bounds.2)
  | number => exact (yields_below (by decide)).bind fun number bounded => .pure (.number bounded)
  | boolean => exact yields_fraction.bind fun drawn _ => .pure (.boolean _)
  | yes => exact .pure .yes
  | no => exact .pure .no
  | null => exact .pure .null
  | undefined => exact .pure .undefined

/-- A literal in quotes gives its content. -/
theorem yields_quoted (literal : QuotedLiteral) :
    Yields (sampleScalar now literal.write : Sampling source Value)
      (BranchSyntax.quoted literal).Conforms := by
  have unwrapped : Text.unwrapMarks? ['\'', '"'] literal.write = some literal.content :=
    Text.unwrapMarks?_eq_some_iff.mpr ⟨literal.quote.mark, by cases literal.quote <;> decide, rfl⟩
  have other : ∀ first rest, first ∉ ['\'', '"'] → literal.write ≠ first :: rest := by
    rintro first rest other same
    obtain ⟨rfl, -⟩ := List.cons.inj same
    cases quote : literal.quote <;> simp [quote, Quote.mark] at other
  have sampled : (sampleScalar now literal.write : Sampling source Value) =
      pure (.text literal.content) := by
    simp [sampleScalar, unwrapped, other]
  rw [sampled]
  exact .pure (.quoted literal)

/-- An integer literal gives its number. -/
theorem yields_integer (literal : IntegerLiteral) :
    Yields (sampleScalar now literal.write : Sampling source Value)
      (BranchSyntax.integer literal).Conforms := by
  have other : ∀ first rest, first ≠ '-' → first.isDigit = false → literal.write ≠ first :: rest :=
    fun first rest noMinus noDigit => literal.write_ne noMinus noDigit
  have noMarks : Text.unwrapMarks? ['\'', '"'] literal.write = none := by
    refine Option.eq_none_iff_forall_ne_some.mpr fun inside found => ?_
    obtain ⟨mark, member, same⟩ := Text.unwrapMarks?_eq_some_iff.mp found
    refine other mark _ ?_ ?_ same <;>
    · rcases List.mem_cons.mp member with rfl | member
      · decide
      · rw [List.mem_singleton.mp member]
        decide
  have read : readInteger? literal.write = some literal.value :=
    readInteger?_of_isDigit literal.negative literal.numeral literal.nonempty literal.bounded
  have sampled : (sampleScalar now literal.write : Sampling source Value) =
      pure (.int literal.value) := by
    simp [sampleScalar, noMarks, literal.numberLiteral?_write, read, other]
  rw [sampled]
  exact .pure (.integer literal)

end Scalar

section Fields

open Sampling

variable {source : RandomSource}

/-- The entries go on with entries that conform to the fields. -/
def GoesOn (declared : List (FieldHead × TypeSyntax)) (entries result : List (Text × Value)) : Prop :=
  ∃ further, result = entries ++ further ∧ FieldsConform declared further

variable {sample : Text → Sampling source Value} {head : FieldHead} {type : TypeSyntax}
variable {rest : List (FieldHead × TypeSyntax)} {fields : List Field}
variable {entries : List (Text × Value)}

/-- A field with an entry of its own: what its type gives stands in front of the further entries. -/
theorem yields_present (fresh : head.key.text ∉ entries.map Prod.fst)
    (conforms : Yields (sample type.write) type.Conforms)
    (others : ∀ value, Yields (sampleFields sample fields (entries ++ [(head.key.text, value)]))
      (GoesOn rest (entries ++ [(head.key.text, value)]))) :
    Yields (do
      let value ← sample type.write
      sampleFields sample fields (put head.key.text value entries))
      (GoesOn ((head, type) :: rest) entries) := by
  refine conforms.bind fun value conforms => ?_
  rw [put_of_not_mem fresh]
  refine (others value).mono ?_
  rintro _ ⟨further, rfl, rests⟩
  exact ⟨(head.key.text, value) :: further, by simp, .present conforms rests⟩

/-- An optional field without an entry. -/
theorem yields_absent (optional : head.optional.isSome = true)
    (others : Yields (sampleFields sample fields entries) (GoesOn rest entries)) :
    Yields (sampleFields sample fields entries) (GoesOn ((head, type) :: rest) entries) := by
  refine others.mono ?_
  rintro _ ⟨further, rfl, rests⟩
  exact ⟨further, rfl, .absent optional rests⟩

/-- Sampling the fields one by one gives entries that conform, behind those there are already. -/
theorem yields_fields (declared : List (FieldHead × TypeSyntax)) (entries : List (Text × Value))
    (distinct : (entries.map Prod.fst ++ declared.map fun field => field.1.key.text).Nodup)
    (each : ∀ field ∈ declared, Yields (sample field.2.write) field.2.Conforms) :
    Yields (sampleFields sample (declared.filterMap fun field => field.1.field? field.2.write) entries)
      (GoesOn declared entries) := by
  induction declared generalizing entries with
  | nil => exact .pure ⟨[], by simp, .nil⟩
  | cons field rest inductionHypothesis =>
    obtain ⟨head, type⟩ := field
    have others := fun other member => each other (List.mem_cons_of_mem _ member)
    have fresh : head.key.text ∉ entries.map Prod.fst := fun known =>
      List.disjoint_of_nodup_append distinct known (by simp)
    have fewer : (entries.map Prod.fst ++ rest.map fun field => field.1.key.text).Nodup :=
      distinct.sublist (List.Sublist.append_left (List.sublist_cons_self _ _) _)
    have present := yields_present fresh (each (head, type) (by simp)) fun value =>
      inductionHypothesis (entries ++ [(head.key.text, value)]) (by simpa using distinct) others
    have absent (optional : head.optional.isSome = true) :
        Yields (sampleFields sample (rest.filterMap fun field => field.1.field? field.2.write) entries)
          (GoesOn ((head, type) :: rest) entries) :=
      yields_absent optional (inductionHypothesis entries fewer others)
    cases optional : head.optional with
    | none => simpa [FieldHead.field?, optional, sampleFields] using present
    | some apart =>
      by_cases hidden : apart.text = []
      · suffices drawn : Yields (Sampling.fraction >>= fun drawn =>
            if drawn.lessThan includeRate then do
              let value ← sample type.write
              sampleFields sample (rest.filterMap fun field => field.1.field? field.2.write)
                (put head.key.text value entries)
            else
              sampleFields sample (rest.filterMap fun field => field.1.field? field.2.write)
                entries) (GoesOn ((head, type) :: rest) entries) by
          simpa [FieldHead.field?, optional, hidden, sampleFields] using drawn
        refine yields_fraction.bind fun drawn _ => ?_
        split
        · exact present
        · exact absent (by simp [optional])
      · simpa [FieldHead.field?, optional, hidden] using absent (by simp [optional])

end Fields

section Branch

open Sampling

variable {source : RandomSource} {now : Instant} {fuel : Nat}

/-- Sampling a branch with that much fuel gives what conforms. -/
def SamplesBranch (source : RandomSource) (now : Instant) (fuel : Nat) (branch : BranchSyntax) :
    Prop :=
  Yields (sampleWithin now fuel branch.write : Sampling source Value) branch.Conforms

/-- Sampling a type with that much fuel gives what conforms. -/
def SamplesType (source : RandomSource) (now : Instant) (fuel : Nat) (type : TypeSyntax) : Prop :=
  Yields (sampleWithin now fuel type.write : Sampling source Value) type.Conforms

theorem samples_word (scalar : ScalarWord) : SamplesBranch source now (fuel + 1) (.word scalar) := by
  have sampled : (sampleWithin now (fuel + 1) (BranchSyntax.word scalar).write :
      Sampling source Value) = sampleScalar now scalar.text :=
    sampleWithin_of_scalar (BranchSyntax.isTrimmed_write _) (BranchSyntax.unionBranches_write _)
      (by cases scalar <;> decide) (by cases scalar <;> decide) (by cases scalar <;> decide)
  rw [SamplesBranch, sampled]
  exact (yields_word scalar).mono fun value conforms => .word conforms

theorem samples_quoted (literal : QuotedLiteral) :
    SamplesBranch source now (fuel + 1) (.quoted literal) := by
  have head : literal.write.head? = some literal.quote.mark := rfl
  have last : literal.write.getLast? = some literal.quote.mark := by
    rw [QuotedLiteral.write, Quote.around, ← List.cons_append, List.getLast?_concat]
  have sampled : (sampleWithin now (fuel + 1) (BranchSyntax.quoted literal).write :
      Sampling source Value) = sampleScalar now literal.write :=
    sampleWithin_of_scalar (BranchSyntax.isTrimmed_write _) (BranchSyntax.unionBranches_write _)
      (arrayItem?_eq_none head last (by cases literal.quote <;> decide)
        (by cases literal.quote <;> decide))
      (fun same => by
        rw [BranchSyntax.write, head] at same
        cases quote : literal.quote <;> simp [quote, Quote.mark] at same)
      (fun same => by
        rw [BranchSyntax.write, head] at same
        cases quote : literal.quote <;> simp [quote, Quote.mark] at same)
  rw [SamplesBranch, sampled]
  exact yields_quoted literal

theorem samples_integer (literal : IntegerLiteral) :
    SamplesBranch source now (fuel + 1) (.integer literal) := by
  obtain ⟨first, rest, begins, mark⟩ := literal.exists_write
  have other : ∀ character : Char, character ≠ '-' → character.isDigit = false →
      literal.write.head? ≠ some character := by
    rintro character noMinus noDigit same
    rw [begins, List.head?_cons, Option.some.injEq] at same
    subst same
    rcases mark with minus | digit
    · exact noMinus minus
    · rw [noDigit] at digit
      cases digit
  have ends : literal.write.getLast? = some (literal.digits.getLast literal.nonempty) := by
    rw [IntegerLiteral.write, List.getLast?_append_of_ne_nil _ literal.nonempty,
      List.getLast?_eq_some_getLast literal.nonempty]
  have digit := literal.numeral _ (List.getLast_mem literal.nonempty)
  have head : literal.write.head? = some first := by rw [begins]; rfl
  have noArray : arrayItem? literal.write = none :=
    arrayItem?_eq_none head ends
      ⟨fun same => other 'A' (by decide) (by decide) (same ▸ head),
        fun same => other 'R' (by decide) (by decide) (same ▸ head)⟩
      (fun same => absurd digit (by rw [same]; decide))
  have sampled : (sampleWithin now (fuel + 1) (BranchSyntax.integer literal).write :
      Sampling source Value) = sampleScalar now literal.write :=
    sampleWithin_of_scalar (BranchSyntax.isTrimmed_write _) (BranchSyntax.unionBranches_write _)
      noArray (other '(' (by decide) (by decide)) (other '{' (by decide) (by decide))
  rw [SamplesBranch, sampled]
  exact yields_integer literal

theorem samples_array {item : BranchSyntax} (each : SamplesBranch source now fuel item) :
    SamplesBranch source now (fuel + 1) (.array item) := by
  rw [SamplesBranch, sampleWithin_branch]
  simp only [BranchSyntax.write, arrayItem?_brackets]
  exact each.bind fun first one => each.bind fun second other => .pure (.array one other)

theorem samples_generic {readonly : Bool} {item : BranchSyntax}
    (each : SamplesBranch source now fuel item) :
    SamplesBranch source now (fuel + 1) (.generic readonly item) := by
  rw [SamplesBranch, sampleWithin_branch]
  simp only [BranchSyntax.write, arrayItem?_generic]
  exact each.bind fun first one => each.bind fun second other => .pure (.generic one other)

theorem samples_group {front back : Gap} {inner : TypeSyntax}
    (inside : SamplesType source now fuel inner) :
    SamplesBranch source now (fuel + 1) (.group front inner back) := by
  have closed : isClosed (front.text ++ inner.write ++ back.text) = true :=
    isClosed_append (isClosed_append (isClosed_of_blank front.blank) inner.isClosed_write)
      (isClosed_of_blank back.blank)
  have sampled : (sampleWithin now (fuel + 1) (BranchSyntax.group front inner back).write :
      Sampling source Value) = sampleWithin now fuel inner.write :=
    (sampleWithin_group closed).trans (sampleWithin_between front.blank back.blank)
  rw [SamplesBranch, sampled]
  exact inside.mono fun value conforms => .group conforms

theorem samples_object {fields : FieldsSyntax} (distinct : fields.keys.Nodup)
    (each : ∀ field ∈ fields.declared, SamplesType source now fuel field.2) :
    SamplesBranch source now (fuel + 1) (.object fields) := by
  have noArray : arrayItem? (BranchSyntax.object fields).write = none :=
    arrayItem?_eq_none rfl (by rw [BranchSyntax.write, ← List.cons_append, List.getLast?_concat])
      (by decide) (by decide)
  have unwrapped : unwrapBraces? (BranchSyntax.object fields).write = some fields.write :=
    unwrapBraces?_eq_some_iff.mpr (Text.trim_of_ends (by decide) (by decide))
  have noGroup : (BranchSyntax.object fields).write.head? ≠ some '(' := by
    simp [BranchSyntax.write]
  have sampled : (sampleWithin now (fuel + 1) (BranchSyntax.object fields).write :
      Sampling source Value) = do
        let entries ← sampleFields (sampleWithin now fuel)
          (fields.declared.filterMap fun field => field.1.field? field.2.write) []
        return .record entries := by
    rw [sampleWithin_branch, noArray]
    simp only [noGroup, false_and, if_false, unwrapped, Option.isSome_some, if_true]
    rw [BranchSyntax.write, fields.fieldsOf_write]
  have drawn := yields_fields fields.declared [] (by simpa [FieldsSyntax.keys] using distinct) each
  rw [SamplesBranch, sampled]
  refine drawn.bind fun entries conform => .pure ?_
  obtain ⟨further, rfl, each⟩ := conform
  exact .object each

/-- What stands for nothing conforms as null. -/
theorem BranchSyntax.Conforms.eq_null {branch : BranchSyntax} {value : Value}
    (conforms : branch.Conforms value) (nothing : branch.isNothing = true) : value = .null := by
  cases conforms with
  | word conforms => cases conforms <;> first | rfl | cases nothing
  | _ => cases nothing

/-- A union of several branches is sampled by one of its candidates. -/
theorem samples_union {type : TypeSyntax} (several : 1 < type.branches.length)
    (each : ∀ branch ∈ type.branches, SamplesBranch source now fuel branch) :
    SamplesType source now (fuel + 1) type := by
  have sampled : (sampleWithin now (fuel + 1) type.write : Sampling source Value) =
      Sampling.choose (unionCandidates (type.branches.map BranchSyntax.write)) >>=
        sampleWithin now fuel := by
    simp only [sampleWithin, type.isTrimmed_write.trim_eq, type.unionBranches_write, List.length_map,
      several, if_true]
  rw [SamplesType, sampled, unionCandidates_write]
  cases none : (type.branches.filter fun branch => !branch.isNothing).isEmpty with
  | true =>
    -- every branch stands for nothing, and the first one is sampled
    have all : ∀ branch ∈ type.branches, branch.isNothing = true := by
      simpa [List.filter_eq_nil_iff] using none
    simp only [none, if_true]
    refine (yields_choose ?_).bind fun text chosen => ?_
    · simpa using type.branches_ne_nil
    · obtain ⟨branch, first, rfl⟩ := List.mem_map.mp chosen
      have member := List.mem_of_mem_take first
      refine (each branch member).mono fun value conforms => ?_
      rw [conforms.eq_null (all branch member)]
      exact .nothing all
  | false =>
    simp only [none]
    refine (yields_choose ?_).bind fun text chosen => ?_
    · simpa [List.isEmpty_iff] using none
    · obtain ⟨branch, standing, rfl⟩ := List.mem_map.mp chosen
      obtain ⟨member, stands⟩ := List.mem_filter.mp standing
      exact (each branch member).mono fun value conforms =>
        .branch member (by simpa using stands) conforms

end Branch

section Whole

variable {source : RandomSource} {now : Instant}

/-- A branch is shorter than a union that it is a branch of. -/
theorem TypeSyntax.length_lt_or_single : ∀ (type : TypeSyntax) {branch : BranchSyntax},
    branch ∈ type.branches →
      branch.write.length < type.write.length ∨ type = .single branch
  | .single only, branch, member => .inr (by rw [List.mem_singleton.mp member])
  | .either first before after rest, branch, member => by
    have length : (TypeSyntax.either first before after rest).write.length =
        first.write.length + before.text.length + (after.text.length + rest.write.length) + 1 := by
      simp [TypeSyntax.write, Nat.add_assoc]
    left
    rcases List.mem_cons.mp member with rfl | member
    · omega
    · rcases rest.length_lt_or_single member with shorter | rfl
      · omega
      · rw [length, TypeSyntax.write]
        omega

/-- The type of a field is shorter than the fields and the braces around them. -/
theorem FieldsSyntax.length_le_of_mem : ∀ (fields : FieldsSyntax) {field : FieldHead × TypeSyntax},
    field ∈ fields.declared → field.2.write.length ≤ fields.write.length
  | .last head type back, field, member => by
    rw [List.mem_singleton.mp member]
    simp only [FieldsSyntax.write, List.length_append]
    omega
  | .more head type back rest, field, member => by
    rw [FieldsSyntax.write]
    simp only [List.length_append, List.length_cons]
    rcases List.mem_cons.mp member with same | member
    · simp only [same]
      omega
    · have shorter := rest.length_le_of_mem member
      omega

/-- With more fuel than the branch is long, sampling it gives what conforms. -/
def BranchSyntax.Samples (source : RandomSource) (now : Instant) (branch : BranchSyntax) : Prop :=
  ∀ fuel, branch.write.length < fuel → SamplesBranch source now fuel branch

/-- With more fuel than the type is long, sampling it gives what conforms. -/
def TypeSyntax.Samples (source : RandomSource) (now : Instant) (type : TypeSyntax) : Prop :=
  ∀ fuel, type.write.length < fuel → SamplesType source now fuel type

/-- A type is sampled as its branches are. -/
theorem TypeSyntax.samples_of_branches {type : TypeSyntax}
    (each : ∀ branch ∈ type.branches, branch.Samples source now) : type.Samples source now := by
  intro fuel enough
  cases type with
  | single branch =>
    exact (each branch (by simp [TypeSyntax.branches]) fuel enough).mono fun value conforms =>
      .single conforms
  | either first before after rest =>
    have several : 1 < (TypeSyntax.either first before after rest).branches.length := by
      have nonempty := List.length_pos_iff.mpr rest.branches_ne_nil
      simpa [TypeSyntax.branches] using nonempty
    obtain ⟨fuel, rfl⟩ := Nat.exists_eq_add_of_lt enough
    refine samples_union several fun branch member => each branch member _ ?_
    rcases TypeSyntax.length_lt_or_single _ member with shorter | single
    · omega
    · cases single

mutual

/-- A branch whose object types have distinct keys gives what conforms. -/
theorem BranchSyntax.samples : ∀ branch : BranchSyntax, branch.HasDistinctKeys →
    branch.Samples source now
  | .word scalar, _, fuel + 1, _ => samples_word scalar
  | .quoted literal, _, fuel + 1, _ => samples_quoted literal
  | .integer literal, _, fuel + 1, _ => samples_integer literal
  | .array item, distinct, fuel + 1, enough =>
    samples_array (item.samples distinct fuel (by
      simp only [BranchSyntax.write, List.length_append, List.length_cons] at enough
      omega))
  | .generic readonly item, distinct, fuel + 1, enough =>
    samples_generic (item.samples distinct fuel (by
      simp only [BranchSyntax.write, List.length_append, List.length_singleton] at enough
      omega))
  | .group front inner back, distinct, fuel + 1, enough =>
    samples_group (inner.samples distinct fuel (by
      simp only [BranchSyntax.write, List.length_append, List.length_cons] at enough
      omega))
  | .object fields, distinct, fuel + 1, enough =>
    samples_object distinct.1 fun field member =>
      fields.samples distinct.2 field member fuel (by
        have shorter := fields.length_le_of_mem member
        simp only [BranchSyntax.write, List.length_append, List.length_cons] at enough
        omega)

/-- A type whose object types have distinct keys gives what conforms. -/
theorem TypeSyntax.samples (type : TypeSyntax) (distinct : type.HasDistinctKeys) :
    type.Samples source now :=
  TypeSyntax.samples_of_branches (type.samples_branches distinct)

/-- So does every branch of the type. -/
theorem TypeSyntax.samples_branches : ∀ type : TypeSyntax, type.HasDistinctKeys →
    ∀ branch ∈ type.branches, branch.Samples source now
  | .single only, distinct, branch, member => by
    rw [List.mem_singleton.mp member]
    exact only.samples distinct
  | .either first before after rest, distinct, branch, member => by
    rcases List.mem_cons.mp member with same | member
    · rw [same]
      exact first.samples distinct.1
    · exact rest.samples_branches distinct.2 branch member

/-- So does the type of every field. -/
theorem FieldsSyntax.samples : ∀ fields : FieldsSyntax, fields.HaveDistinctKeys →
    ∀ field ∈ fields.declared, field.2.Samples source now
  | .last head type back, distinct, field, member => by
    rw [List.mem_singleton.mp member]
    exact type.samples distinct
  | .more head type back rest, distinct, field, member => by
    rcases List.mem_cons.mp member with same | member
    · rw [same]
      exact type.samples distinct.1
    · exact rest.samples distinct.2 field member

end

/-- A type expression that is understood gives a value that conforms to it, whatever the source of
randomness answers. -/
theorem sampleValue_conforms (source : RandomSource) (now : Instant) (type : TypeSyntax)
    (distinct : type.HasDistinctKeys) (sampler : Sampler source) :
    ∃ value next, (sampleValue now type.write).runOn sampler = (.ok value, next) ∧
      type.Conforms value :=
  type.samples distinct _ (Nat.lt_succ_self _) sampler

end Whole

/-- The type `{ id: number; tag?: 'a' | null }`. -/
def taggedShape : TypeSyntax :=
  let space : Gap := ⟨[' '], rfl⟩
  let tight : Gap := ⟨[], rfl⟩
  let id : FieldHead := ⟨space, ⟨'i', ['d'], rfl, List.all_eq_true.mp rfl⟩, none, tight, space⟩
  let tag : FieldHead := ⟨space, ⟨'t', ['a', 'g'], rfl, List.all_eq_true.mp rfl⟩, some tight, tight, space⟩
  let letter : BranchSyntax := .quoted ⟨.single, ['a'], by decide, by decide⟩
  .single (.object (.more id (.single (.word .number)) tight
    (.last tag (.either letter space space (.single (.word .null))) space)))

theorem sampleValue_conforms_taggedShape :
    taggedShape.write = "\x7b id: number; tag?: 'a' | null \x7d".toList ∧
      taggedShape.HasDistinctKeys ∧
      ∃ value next, (sampleValue ⟨2024, 1, 1, 0, 0, 0, 0⟩ taggedShape.write :
        Sampling Script.source Value).runOn ⟨⟨#[7, 399], 0⟩, []⟩ = (.ok value, next) ∧
          taggedShape.Conforms value := by
  have distinct : taggedShape.HasDistinctKeys := by
    refine ⟨?_, trivial, trivial, trivial⟩
    decide
  exact ⟨by decide, distinct, sampleValue_conforms _ _ taggedShape distinct _⟩

end RouteCatalog
