import RouteCatalog.Proofs.Number.Digits
import RouteCatalog.Proofs.Part
import RouteCatalog.Sample.Value

/-!
# Type expressions that are understood

Concrete syntax of the type expressions whose examples are more than plausible: the words for scalars,
literals, arrays in both notations, groups, unions and object types, with the blanks that stand in
them. The written form of a type is closed and is not split at separators of rows, and that of a branch
not at the bar of a union either (`BranchSyntax.isPart_write`, `TypeSyntax.isPart_write`).
-/

namespace RouteCatalog

/-- Blanks between two tokens, possibly none. -/
structure Gap where
  text : Text
  blank : text.isBlankText = true

/-- A literal in quotes: its content has neither its own mark nor a backslash. -/
structure QuotedLiteral where
  quote : Quote
  content : Text
  unmarked : quote.mark ∉ content
  unescaped : '\\' ∉ content

/-- An integer literal of no more digits than an integer may have. -/
structure IntegerLiteral where
  negative : Bool
  digits : Text
  numeral : ∀ character ∈ digits, character.isDigit = true
  nonempty : digits ≠ []
  bounded : digits.length ≤ maxIntegerDigits

/-- A key of an object type. -/
structure FieldKey where
  first : Char
  rest : Text
  begins : isIdentifierStart first = true
  continues : ∀ character ∈ rest, isIdentifierRest character = true

/-- What stands before the type of a field. -/
structure FieldHead where
  front : Gap
  key : FieldKey
  /-- The blanks before the question mark of an optional field. -/
  optional : Option Gap
  beforeColon : Gap
  afterColon : Gap

/-- The literal as it is written. -/
def QuotedLiteral.write (literal : QuotedLiteral) : Text :=
  literal.quote.around literal.content

/-- The literal as it is written. -/
def IntegerLiteral.write (literal : IntegerLiteral) : Text :=
  (if literal.negative then ['-'] else []) ++ literal.digits

/-- The number that the literal denotes. -/
def IntegerLiteral.value (literal : IntegerLiteral) : Int :=
  signedInt literal.negative (digitsValue (literal.digits.filterMap digitValue?))

/-- The key as it is written. -/
def FieldKey.text (key : FieldKey) : Text :=
  key.first :: key.rest

/-- What follows the key, up to the type. -/
def FieldHead.mark (head : FieldHead) : Text :=
  (match head.optional with
    | none => []
    | some apart => apart.text ++ ['?']) ++
    (head.beforeColon.text ++ ':' :: head.afterColon.text)

/-- What stands before the type of a field, as it is written. -/
def FieldHead.write (head : FieldHead) : Text :=
  head.front.text ++ (head.key.text ++ head.mark)

/-- The words that are types by themselves. -/
inductive ScalarWord where
  | string
  | number
  | boolean
  | yes
  | no
  | null
  | undefined
  deriving DecidableEq, Repr

/-- The word as it is written. -/
def ScalarWord.text : ScalarWord → Text
  | string => "string".toList
  | number => "number".toList
  | boolean => "boolean".toList
  | yes => "true".toList
  | no => "false".toList
  | null => "null".toList
  | undefined => "undefined".toList

/-- What opens an array in words. -/
def arrayOpening (readonly : Bool) : Text :=
  if readonly then "ReadonlyArray<".toList else "Array<".toList

mutual

/-- A type expression that is no union. -/
inductive BranchSyntax where
  | word (scalar : ScalarWord)
  | quoted (literal : QuotedLiteral)
  | integer (literal : IntegerLiteral)
  | array (item : BranchSyntax)
  | generic (readonly : Bool) (item : BranchSyntax)
  | group (front : Gap) (inner : TypeSyntax) (back : Gap)
  | object (fields : FieldsSyntax)

/-- A type expression: one branch, or a union of several. -/
inductive TypeSyntax where
  | single (branch : BranchSyntax)
  | either (branch : BranchSyntax) (before after : Gap) (rest : TypeSyntax)

/-- What stands between the braces of an object type. -/
inductive FieldsSyntax where
  | empty (gap : Gap)
  | last (head : FieldHead) (type : TypeSyntax) (back : Gap)
  | more (head : FieldHead) (type : TypeSyntax) (back : Gap) (rest : FieldsSyntax)

end

mutual

/-- The type expression as it is written. -/
def BranchSyntax.write : BranchSyntax → Text
  | .word scalar => scalar.text
  | .quoted literal => literal.write
  | .integer literal => literal.write
  | .array item => item.write ++ ['[', ']']
  | .generic readonly item => arrayOpening readonly ++ (item.write ++ ['>'])
  | .group front inner back => '(' :: (front.text ++ inner.write ++ back.text ++ [')'])
  | .object fields => '{' :: (fields.write ++ ['}'])

/-- The type expression as it is written. -/
def TypeSyntax.write : TypeSyntax → Text
  | .single branch => branch.write
  | .either branch before after rest =>
    branch.write ++ before.text ++ '|' :: (after.text ++ rest.write)

/-- The fields as they are written. -/
def FieldsSyntax.write : FieldsSyntax → Text
  | .empty gap => gap.text
  | .last head type back => head.write ++ type.write ++ back.text
  | .more head type back rest => head.write ++ type.write ++ back.text ++ ';' :: rest.write

end

/-- The branches of a type. -/
def TypeSyntax.branches : TypeSyntax → List BranchSyntax
  | .single branch => [branch]
  | .either branch _ _ rest => branch :: rest.branches

/-- The fields with what stands before their types. -/
def FieldsSyntax.declared : FieldsSyntax → List (FieldHead × TypeSyntax)
  | .empty _ => []
  | .last head type _ => [(head, type)]
  | .more head type _ rest => (head, type) :: rest.declared

/-- The keys of the fields. -/
def FieldsSyntax.keys (fields : FieldsSyntax) : List Text :=
  fields.declared.map fun field => field.1.key.text

mutual

/-- Has every object type in the branch distinct keys? -/
def BranchSyntax.HasDistinctKeys : BranchSyntax → Prop
  | .array item => item.HasDistinctKeys
  | .generic _ item => item.HasDistinctKeys
  | .group _ inner _ => inner.HasDistinctKeys
  | .object fields => fields.keys.Nodup ∧ fields.HaveDistinctKeys
  | _ => True

/-- Has every object type in the type distinct keys? -/
def TypeSyntax.HasDistinctKeys : TypeSyntax → Prop
  | .single branch => branch.HasDistinctKeys
  | .either branch _ _ rest => branch.HasDistinctKeys ∧ rest.HasDistinctKeys

/-- Has every object type in the types of the fields distinct keys? -/
def FieldsSyntax.HaveDistinctKeys : FieldsSyntax → Prop
  | .empty _ => True
  | .last _ type _ => type.HasDistinctKeys
  | .more _ type _ rest => type.HasDistinctKeys ∧ rest.HaveDistinctKeys

end

section Part

variable {isSeparator : Char → Bool}

theorem Gap.quiet (gap : Gap) : gap.text.all isQuiet = true :=
  all_isQuiet_of_blank gap.blank

theorem Gap.isPart (separates : SeparatesParts isSeparator) (gap : Gap) :
    IsPart isSeparator gap.text :=
  .of_quiet separates gap.quiet

theorem QuotedLiteral.isPart (separates : SeparatesParts isSeparator) (literal : QuotedLiteral) :
    IsPart isSeparator literal.write := by
  have enclosed : literal.quote.encloses literal.content = true :=
    Quote.encloses_of_not_mem literal.unmarked fun last =>
      literal.unescaped (List.mem_of_getLast? last)
  exact ⟨isClosed_around enclosed,
    whole_around (separates.eq_false (by cases literal.quote <;> decide)) enclosed⟩

theorem IntegerLiteral.isPart (separates : SeparatesParts isSeparator) (literal : IntegerLiteral) :
    IsPart isSeparator literal.write := by
  refine .of_quiet separates (List.all_eq_true.mpr fun character member => ?_)
  rcases List.mem_append.mp member with sign | digit
  · have minus : character = '-' := by
      cases negative : literal.negative <;> simp_all
    rw [minus]
    decide
  · exact isQuiet_of_isDigit (literal.numeral character digit)

theorem FieldHead.isPart (separates : SeparatesParts isSeparator) (head : FieldHead) :
    IsPart isSeparator head.write := by
  have key : head.key.text.all isQuiet = true := by
    rw [FieldKey.text, List.all_cons, Bool.and_eq_true]
    exact ⟨isQuiet_of_isIdentifierRest (isIdentifierRest_of_isIdentifierStart head.key.begins),
      List.all_eq_true.mpr fun character member =>
        isQuiet_of_isIdentifierRest (head.key.continues character member)⟩
  have question : isQuiet '?' = true := by decide
  have colon : isQuiet ':' = true := by decide
  refine .of_quiet separates ?_
  rw [FieldHead.write, FieldHead.mark]
  cases head.optional with
  | none => simp [key, colon, Gap.quiet]
  | some apart => simp [key, colon, question, Gap.quiet]

end Part

section Write

variable {isSeparator : Char → Bool}

mutual

/-- What is written of a branch is closed. -/
theorem BranchSyntax.isClosed_write : ∀ branch : BranchSyntax, isClosed branch.write = true
  | .word scalar => by cases scalar <;> decide
  | .quoted literal => (literal.isPart separatesParts_row).closed
  | .integer literal => (literal.isPart separatesParts_row).closed
  | .array item => isClosed_append item.isClosed_write (by decide)
  | .generic readonly item =>
    isClosed_append (by cases readonly <;> decide) (isClosed_append item.isClosed_write (by decide))
  | .group front inner back =>
    isClosed_group .paren (isClosed_append (isClosed_append (isClosed_of_blank front.blank)
      inner.isClosed_write) (isClosed_of_blank back.blank))
  | .object fields => isClosed_group .brace fields.isClosed_write

/-- What is written of a type is closed. -/
theorem TypeSyntax.isClosed_write : ∀ type : TypeSyntax, isClosed type.write = true
  | .single branch => branch.isClosed_write
  | .either branch before after rest =>
    isClosed_append (isClosed_append branch.isClosed_write (isClosed_of_blank before.blank))
      (isClosed_cons (by decide)
        (isClosed_append (isClosed_of_blank after.blank) rest.isClosed_write))

/-- What is written of fields is closed. -/
theorem FieldsSyntax.isClosed_write : ∀ fields : FieldsSyntax, isClosed fields.write = true
  | .empty gap => isClosed_of_blank gap.blank
  | .last head type back =>
    isClosed_append (isClosed_append (head.isPart separatesParts_row).closed type.isClosed_write)
      (isClosed_of_blank back.blank)
  | .more head type back rest =>
    isClosed_append (isClosed_append (isClosed_append (head.isPart separatesParts_row).closed
      type.isClosed_write) (isClosed_of_blank back.blank))
      (isClosed_cons (by decide) rest.isClosed_write)

end

/-- What is written of a branch is one part of a union and of a row. -/
theorem BranchSyntax.isPart_write (separates : SeparatesParts isSeparator) :
    ∀ branch : BranchSyntax, IsPart isSeparator branch.write
  | .word scalar => .of_quiet separates (by cases scalar <;> decide)
  | .quoted literal => literal.isPart separates
  | .integer literal => literal.isPart separates
  | .array item =>
    have brackets := IsPart.group separates .bracket (by decide : isClosed ([] : Text) = true)
    (item.isPart_write separates).append brackets
  | .generic readonly item =>
    .append (.of_quiet separates (by cases readonly <;> decide))
      ((item.isPart_write separates).append (.of_quiet separates (by decide)))
  | .group front inner back =>
    .group separates .paren (isClosed_append (isClosed_append (isClosed_of_blank front.blank)
      inner.isClosed_write) (isClosed_of_blank back.blank))
  | .object fields => .group separates .brace fields.isClosed_write

/-- What is written of a type is one part of a row. -/
theorem TypeSyntax.isPart_write : ∀ type : TypeSyntax, IsPart isRowSeparator type.write
  | .single branch => branch.isPart_write separatesParts_row
  | .either branch before after rest => by
    have bar : IsPart isRowSeparator ['|'] := ⟨by decide, by decide⟩
    have joined := ((branch.isPart_write separatesParts_row).append
      (before.isPart separatesParts_row)).append
        (bar.append ((after.isPart separatesParts_row).append rest.isPart_write))
    simpa [TypeSyntax.write] using joined

end Write

section Trim

theorem isBlank_of_isDigit {character : Char} (digit : character.isDigit = true) :
    isBlank character = false := by
  obtain ⟨lower, upper⟩ := toNat_of_isDigit digit
  simp only [isBlank, Bool.or_eq_false_iff, Bool.and_eq_false_iff, decide_eq_false_iff_not,
    beq_eq_false_iff_ne]
  omega

theorem IntegerLiteral.isTrimmed (literal : IntegerLiteral) : IsTrimmed literal.write := by
  refine .of_no_blank (by simp [IntegerLiteral.write, literal.nonempty])
    (List.all_eq_true.mpr fun character member => ?_)
  rcases List.mem_append.mp member with sign | digit
  · have minus : character = '-' := by
      cases negative : literal.negative <;> simp_all
    rw [minus]
    decide
  · simpa using isBlank_of_isDigit (literal.numeral character digit)

/-- What is written of a branch begins and ends with other than blanks. -/
theorem BranchSyntax.isTrimmed_write : ∀ branch : BranchSyntax, IsTrimmed branch.write
  | .word scalar => by cases scalar <;> exact .of_no_blank (by decide) (by decide)
  | .quoted literal => by
    have mark : isBlank literal.quote.mark = false := by cases literal.quote <;> decide
    have ends : IsTrimmed (literal.quote.around literal.content) := .of_ends mark mark
    exact ends
  | .integer literal => literal.isTrimmed
  | .array item => by
    have brackets : IsTrimmed ['[', ']'] := .of_no_blank (by decide) (by decide)
    have joined := item.isTrimmed_write.append [] brackets
    rwa [List.append_nil] at joined
  | .generic readonly item => by
    have closing : IsTrimmed ['>'] := .of_no_blank (by decide) (by decide)
    have opening : IsTrimmed (arrayOpening readonly) := by
      cases readonly <;> exact .of_no_blank (by decide) (by decide)
    have joined := opening.append item.write closing
    rwa [List.append_assoc] at joined
  | .group front inner back => .of_ends (by decide) (by decide)
  | .object fields => .of_ends (by decide) (by decide)

/-- What is written of a type begins and ends with other than blanks. -/
theorem TypeSyntax.isTrimmed_write : ∀ type : TypeSyntax, IsTrimmed type.write
  | .single branch => branch.isTrimmed_write
  | .either branch before after rest => by
    have joined := branch.isTrimmed_write.append (before.text ++ '|' :: after.text) rest.isTrimmed_write
    rwa [← List.append_assoc, List.append_assoc, List.cons_append] at joined

end Trim

end RouteCatalog
