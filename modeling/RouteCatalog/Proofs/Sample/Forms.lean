import RouteCatalog.Proofs.Sample.Branches
import RouteCatalog.Proofs.Sample.Syntax

/-!
# How the forms of a type are told apart

Each form of a type expression is recognized by how its written form begins and ends: a written branch
is no union (`BranchSyntax.unionBranches_write`), and it is an array, a group, an object type or a
scalar as its syntax says. The fields of a written object type are those that are declared
(`FieldsSyntax.fieldsOf_write`), apart from one whose question mark stands off its key.
-/

namespace RouteCatalog

section Forms

variable {source : RandomSource} {now : Instant} {fuel : Nat} {text front back : Text}

/-- Blanks around a type mean nothing. -/
theorem sampleWithin_between (blankFront : front.isBlankText = true)
    (blankBack : back.isBlankText = true) :
    (sampleWithin now fuel (front ++ text ++ back) : Sampling source Value) =
      sampleWithin now fuel text := by
  cases fuel with
  | zero => rfl
  | succ fuel => simp only [sampleWithin, Text.trim_between blankFront blankBack]

/-- A text without blanks at its ends that is no union is sampled by its form. -/
theorem sampleWithin_of_single (trimmed : IsTrimmed text) (single : unionBranches text = [text]) :
    (sampleWithin now (fuel + 1) text : Sampling source Value) =
      match arrayItem? text with
      | some item => do
        let first ← sampleWithin now fuel item
        let second ← sampleWithin now fuel item
        return .list [first, second]
      | none =>
        if text.head? = some '(' ∧ isOneBlock text then
          sampleWithin now fuel (text.drop 1).dropLast
        else if (unwrapBraces? text).isSome then do
          let entries ← sampleFields (sampleWithin now fuel) (fieldsOf text) []
          return .record entries
        else sampleScalar now text := by
  have alone : ¬1 < (unionBranches text).length := by simp [single]
  simp only [sampleWithin, trimmed.trim_eq]
  exact if_neg alone

/-- A text that does not begin as an array in words and does not end with a bracket is no array. -/
theorem arrayItem?_eq_none {first last : Char} (begins : text.head? = some first)
    (ends : text.getLast? = some last) (noWord : first ≠ 'A' ∧ first ≠ 'R')
    (noBracket : last ≠ ']') : arrayItem? text = none := by
  obtain ⟨rest, rfl⟩ : ∃ rest, text = first :: rest := by
    cases text with
    | nil => cases begins
    | cons other rest => exact ⟨rest, by rw [Option.some.inj begins]⟩
  have other : Text.dropEnding? (first :: rest) ['[', ']'] = none := by
    refine Option.eq_none_iff_forall_ne_some.mpr fun front found => noBracket ?_
    rw [Text.dropEnding?_eq_some_iff.mp found] at ends
    simpa using ends.symm
  simp [arrayItem?, other, Text.after?, Ne.symm noWord.1, Ne.symm noWord.2]

/-- What ends with an empty pair of brackets is an array. -/
theorem arrayItem?_brackets (item : Text) : arrayItem? (item ++ ['[', ']']) = some item := by
  have brackets : Text.dropEnding? (item ++ ['[', ']']) "[]".toList = some item :=
    Text.dropEnding?_eq_some_iff.mpr rfl
  rw [arrayItem?, brackets]

/-- An array in words is an array of what is between its marks. -/
theorem arrayItem?_generic (readonly : Bool) (item : Text) :
    arrayItem? (arrayOpening readonly ++ (item ++ ['>'])) = some item := by
  have noBrackets : Text.dropEnding? (arrayOpening readonly ++ (item ++ ['>'])) "[]".toList = none := by
    refine Option.eq_none_iff_forall_ne_some.mpr fun front found => ?_
    have ends := congrArg List.getLast? (Text.dropEnding?_eq_some_iff.mp found)
    simp [← List.append_assoc] at ends
  have opened : Text.after? "Array<".toList ((Text.after? "Readonly".toList
      (arrayOpening readonly ++ (item ++ ['>']))).getD (arrayOpening readonly ++ (item ++ ['>']))) =
        some (item ++ ['>']) := by
    cases readonly <;> simp [arrayOpening, Text.after?]
  simp only [arrayItem?, noBrackets, opened]
  exact Text.dropEnding?_eq_some_iff.mpr rfl

/-- A closed text in parentheses is sampled as it is without them. -/
theorem sampleWithin_group (closed : isClosed text = true) :
    (sampleWithin now (fuel + 1) ('(' :: (text ++ [')'])) : Sampling source Value) =
      sampleWithin now fuel text := by
  have single : unionBranches ('(' :: (text ++ [')'])) = ['(' :: (text ++ [')'])] :=
    unionBranches_of_whole (.of_ends (by decide) (by decide)) (whole_group .paren rfl closed)
  have noArray : arrayItem? ('(' :: (text ++ [')'])) = none :=
    arrayItem?_eq_none rfl (by rw [← List.cons_append, List.getLast?_concat]) (by decide) (by decide)
  have oneBlock : isOneBlock ('(' :: (text ++ [')'])) = true := by
    have length : interiorLength? ('(' :: (text ++ [')'])) = some text.length :=
      interiorLength?_group .paren closed
    rw [isOneBlock, length]
    simp
  rw [sampleWithin_of_single (.of_ends (by decide) (by decide)) single, noArray]
  simp only [List.head?_cons, oneBlock, and_self, if_true, List.drop_succ_cons, List.drop_zero,
    List.dropLast_concat]

/-- A type that is neither a union, an array, a group nor an object type is a scalar. -/
theorem sampleWithin_of_scalar {text : Text} (trimmed : IsTrimmed text)
    (single : unionBranches text = [text]) (noArray : arrayItem? text = none)
    (noGroup : text.head? ≠ some '(') (noObject : text.head? ≠ some '{') :
    (sampleWithin now (fuel + 1) text : Sampling source Value) = sampleScalar now text := by
  have noBraces : unwrapBraces? text = none := by
    refine Option.eq_none_iff_forall_ne_some.mpr fun inside found => noObject ?_
    rw [unwrapBraces?_eq_some_iff, trimmed.trim_eq] at found
    rw [found]
    rfl
  rw [sampleWithin_of_single trimmed single]
  simp [noArray, noGroup, noBraces]

end Forms

/-- Does the branch stand for nothing? -/
def BranchSyntax.isNothing : BranchSyntax → Bool
  | .word .null | .word .undefined => true
  | _ => false

section Union

/-- A branch is the only one of itself. -/
theorem BranchSyntax.unionBranches_write (branch : BranchSyntax) :
    unionBranches branch.write = [branch.write] :=
  unionBranches_of_whole branch.isTrimmed_write (branch.isPart_write separatesParts_bar).whole

/-- The parts of a written union are its branches, between blanks. -/
theorem TypeSyntax.trim_splitTopLevel : ∀ (type : TypeSyntax) (gap : Gap),
    (splitTopLevel (· == '|') (gap.text ++ type.write)).map Text.trim =
      type.branches.map BranchSyntax.write
  | .single branch, gap => by
    have part := (gap.isPart separatesParts_bar).append (branch.isPart_write separatesParts_bar)
    rw [TypeSyntax.write, part.whole, List.map_singleton, Text.trim_blank_append gap.blank,
      branch.isTrimmed_write.trim_eq]
    rfl
  | .either branch before after rest, gap => by
    have part := ((gap.isPart separatesParts_bar).append
      (branch.isPart_write separatesParts_bar)).append (before.isPart separatesParts_bar)
    have shape : gap.text ++ (TypeSyntax.either branch before after rest).write =
        gap.text ++ branch.write ++ before.text ++ '|' :: (after.text ++ rest.write) := by
      simp [TypeSyntax.write]
    rw [shape, splitTopLevel_cons (by decide) (by decide) part.closed part.whole, List.map_cons,
      Text.trim_between gap.blank before.blank, branch.isTrimmed_write.trim_eq,
      rest.trim_splitTopLevel after]
    rfl

/-- The branches of a type, as they are written. -/
theorem TypeSyntax.unionBranches_write (type : TypeSyntax) :
    unionBranches type.write = type.branches.map BranchSyntax.write := by
  have parts := type.trim_splitTopLevel ⟨[], rfl⟩
  rw [List.nil_append] at parts
  rw [unionBranches, parts, List.filter_eq_self]
  intro text member
  obtain ⟨branch, -, rfl⟩ := List.mem_map.mp member
  simp [branch.isTrimmed_write.nonempty]

/-- An integer literal begins with a minus or a digit. -/
theorem IntegerLiteral.exists_write (literal : IntegerLiteral) : ∃ first rest,
    literal.write = first :: rest ∧ (first = '-' ∨ first.isDigit = true) := by
  obtain ⟨first, rest, same⟩ := List.exists_cons_of_ne_nil literal.nonempty
  have digit := literal.numeral first (by rw [same]; simp)
  unfold IntegerLiteral.write
  rw [same]
  cases literal.negative with
  | true => exact ⟨'-', first :: rest, rfl, .inl rfl⟩
  | false => exact ⟨first, rest, rfl, .inr digit⟩

/-- A letter begins no integer literal. -/
theorem IntegerLiteral.write_ne (literal : IntegerLiteral) {first : Char} {rest : Text}
    (noMinus : first ≠ '-') (noDigit : first.isDigit = false) : literal.write ≠ first :: rest := by
  intro same
  obtain ⟨begin, others, shape, marks⟩ := literal.exists_write
  rw [shape, List.cons.injEq] at same
  rcases marks with rfl | digit
  · exact noMinus same.1.symm
  · rw [same.1, noDigit] at digit
    cases digit

/-- Only the words for nothing stand for nothing. -/
theorem BranchSyntax.isNullish_write (branch : BranchSyntax) :
    isNullish branch.write = branch.isNothing := by
  cases branch with
  | word scalar => cases scalar <;> decide
  | quoted literal =>
    cases same : literal.quote <;>
      simp [isNullish, BranchSyntax.write, BranchSyntax.isNothing, QuotedLiteral.write, Quote.around,
        same, Quote.mark]
  | integer literal =>
    have noU : ∀ rest, literal.write ≠ 'u' :: rest := fun _ =>
      literal.write_ne (by decide) (by decide)
    have noN : ∀ rest, literal.write ≠ 'n' :: rest := fun _ =>
      literal.write_ne (by decide) (by decide)
    simp [isNullish, BranchSyntax.write, BranchSyntax.isNothing, noU, noN]
  | array item =>
    have ends : ∀ front word : Text, word.getLast? ≠ some ']' → front ++ ['[', ']'] ≠ word := by
      rintro front word other rfl
      simp at other
    have undefined := ends item.write "undefined".toList (by decide)
    have null := ends item.write "null".toList (by decide)
    rw [BranchSyntax.write, BranchSyntax.isNothing, isNullish, Bool.or_eq_false_iff]
    · exact ⟨beq_eq_false_iff_ne.mpr undefined, beq_eq_false_iff_ne.mpr null⟩
    · intro same
      cases same
    · intro same
      cases same
  | generic readonly item =>
    cases readonly <;> simp [isNullish, BranchSyntax.write, BranchSyntax.isNothing, arrayOpening]
  | group front inner back => simp [isNullish, BranchSyntax.write, BranchSyntax.isNothing]
  | object fields => simp [isNullish, BranchSyntax.write, BranchSyntax.isNothing]

theorem TypeSyntax.branches_ne_nil (type : TypeSyntax) : type.branches ≠ [] := by
  cases type <;> simp [TypeSyntax.branches]

/-- The candidates of a union are its branches that stand for something, or else its first one. -/
theorem unionCandidates_write (branches : List BranchSyntax) :
    unionCandidates (branches.map BranchSyntax.write) =
      let standing := branches.filter fun branch => !branch.isNothing
      (if standing.isEmpty then branches.take 1 else standing).map BranchSyntax.write := by
  have standing : (branches.map BranchSyntax.write).filter (fun branch => !isNullish branch) =
      (branches.filter fun branch => !branch.isNothing).map BranchSyntax.write := by
    rw [List.filter_map]
    refine congrArg _ (List.filter_congr fun branch _ => ?_)
    simp [branch.isNullish_write]
  simp only [unionCandidates, standing, List.isEmpty_map]
  split
  · exact (List.map_take ..).symm
  · rfl

variable {source : RandomSource} {now : Instant} {fuel : Nat}

/-- A branch is sampled by its form. -/
theorem sampleWithin_branch (branch : BranchSyntax) :
    (sampleWithin now (fuel + 1) branch.write : Sampling source Value) =
      match arrayItem? branch.write with
      | some item => do
        let first ← sampleWithin now fuel item
        let second ← sampleWithin now fuel item
        return .list [first, second]
      | none =>
        if branch.write.head? = some '(' ∧ isOneBlock branch.write then
          sampleWithin now fuel (branch.write.drop 1).dropLast
        else if (unwrapBraces? branch.write).isSome then do
          let entries ← sampleFields (sampleWithin now fuel) (fieldsOf branch.write) []
          return .record entries
        else sampleScalar now branch.write :=
  sampleWithin_of_single branch.isTrimmed_write branch.unionBranches_write

end Union

section Number

/-- An integer literal is a number literal without fraction. -/
theorem IntegerLiteral.numberLiteral?_write (literal : IntegerLiteral) :
    numberLiteral? literal.write = some false := by
  have known : ∀ character ∈ literal.digits, isDigit character = true := by
    intro character member
    simp [isDigit, digitValue?_of_isDigit (literal.numeral character member)]
  have leading : leadingDigits literal.digits = literal.digits.filterMap digitValue? := by
    rw [leadingDigits, List.takeWhile_eq_self_iff.mpr known]
  have nonempty : (leadingDigits literal.digits).isEmpty = false := by
    rw [leading, filterMap_digitValue? literal.numeral]
    simpa using literal.nonempty
  have nothing : afterDigits literal.digits = [] := List.dropWhile_eq_nil_iff.mpr known
  obtain ⟨first, rest, same⟩ := List.exists_cons_of_ne_nil literal.nonempty
  have noMinus : first ≠ '-' := by
    rintro rfl
    exact absurd (literal.numeral '-' (by rw [same]; simp)) (by decide)
  unfold IntegerLiteral.write
  cases literal.negative with
  | true => simp [numberLiteral?, nonempty, nothing]
  | false =>
    rw [same] at nonempty nothing
    simp [numberLiteral?, same, noMinus, nonempty, nothing]

end Number

section Fields

/-- The field that is read behind the head of one; a gap before the question mark hides it. -/
def FieldHead.field? (head : FieldHead) (type : Text) : Option Field :=
  match head.optional with
  | none => some ⟨head.key.text, false, type⟩
  | some apart => if apart.text = [] then some ⟨head.key.text, true, type⟩ else none

/-- The row of a field. -/
theorem FieldHead.fieldOfRow?_write (head : FieldHead) {type : Text} (trimmed : IsTrimmed type)
    (back : Gap) : fieldOfRow? (head.write ++ type ++ back.text) = head.field? type := by
  have identifier : isIdentifier head.key.text = true := by
    simpa [isIdentifier, FieldKey.text, head.key.begins] using head.key.continues
  have typed : (head.afterColon.text ++ (type ++ back.text)).trim = type := by
    rw [← List.append_assoc, Text.trim_between head.afterColon.blank back.blank, trimmed.trim_eq]
  have declared : ∀ optional : Bool, fieldOfRow? (head.front.text ++ (head.key.text ++
      (optionalMark optional ++ (head.beforeColon.text ++ ':' ::
        (head.afterColon.text ++ (type ++ back.text)))))) = some ⟨head.key.text, optional, type⟩ :=
    fun optional => fieldOfRow?_eq_some_iff.mpr ⟨identifier, head.front.text, head.beforeColon.text, _,
      head.front.blank, head.beforeColon.blank, typed.symm, rfl⟩
  cases marked : head.optional with
  | none => simpa [FieldHead.write, FieldHead.mark, FieldHead.field?, optionalMark, marked] using
      declared false
  | some apart =>
    by_cases hidden : apart.text = []
    · simpa [FieldHead.write, FieldHead.mark, FieldHead.field?, optionalMark, marked, hidden] using
        declared true
    · have shape : head.write ++ type ++ back.text = head.front.text ++ (head.key.text ++
          (apart.text ++ '?' :: (head.beforeColon.text ++ ':' ::
            (head.afterColon.text ++ (type ++ back.text))))) := by
        simp [FieldHead.write, FieldHead.mark, marked]
      rw [shape, fieldOfRow?_eq_fieldBehind? head.front.blank identifier
        (head?_gap_apart apart.blank (by decide)), fieldBehind?_of_gap apart.blank hidden]
      simp [FieldHead.field?, marked, hidden]

/-- What the rows between the braces of an object type declare. -/
theorem FieldsSyntax.filterMap_rows_write (fields : FieldsSyntax) :
    (rows fields.write).filterMap fieldOfRow? =
      fields.declared.filterMap fun field => field.1.field? field.2.write := by
  cases fields with
  | empty gap =>
    have blank : gap.text.trimStart = [] := Text.trimStart_eq_nil_iff.mpr gap.blank
    have noField : fieldOfRow? gap.text = none := by simp [fieldOfRow?, blank]
    have whole : rows gap.text = [gap.text] := (gap.isPart separatesParts_row).whole
    simp [FieldsSyntax.write, FieldsSyntax.declared, whole, noField]
  | last head type back =>
    have part := ((head.isPart separatesParts_row).append type.isPart_write).append
      (back.isPart separatesParts_row)
    have whole : rows (head.write ++ type.write ++ back.text) =
        [head.write ++ type.write ++ back.text] := part.whole
    simp only [FieldsSyntax.write, FieldsSyntax.declared, whole, List.filterMap_cons,
      List.filterMap_nil, head.fieldOfRow?_write type.isTrimmed_write back]
  | more head type back rest =>
    have part := ((head.isPart separatesParts_row).append type.isPart_write).append
      (back.isPart separatesParts_row)
    have parts : rows (head.write ++ type.write ++ back.text ++ ';' :: rest.write) =
        (head.write ++ type.write ++ back.text) :: rows rest.write :=
      splitTopLevel_cons rfl (by decide) part.closed part.whole
    simp only [FieldsSyntax.write, FieldsSyntax.declared, parts, List.filterMap_cons,
      head.fieldOfRow?_write type.isTrimmed_write back, rest.filterMap_rows_write]

/-- The fields of an object type that is written. -/
theorem FieldsSyntax.fieldsOf_write (fields : FieldsSyntax) :
    fieldsOf ('{' :: (fields.write ++ ['}'])) =
      fields.declared.filterMap fun field => field.1.field? field.2.write := by
  have unwrapped : unwrapBraces? ('{' :: (fields.write ++ ['}'])) = some fields.write :=
    unwrapBraces?_eq_some_iff.mpr (Text.trim_of_ends (by decide) (by decide))
  rw [fieldsOf, unwrapped]
  exact fields.filterMap_rows_write

end Fields

end RouteCatalog
