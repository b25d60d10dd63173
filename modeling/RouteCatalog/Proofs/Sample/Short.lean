import RouteCatalog.Proofs.Delimiter.Whole
import RouteCatalog.Proofs.Field
import RouteCatalog.Proofs.Number.Digits
import RouteCatalog.Proofs.Sample.Sampling
import RouteCatalog.Proofs.Text.Blank

/-!
# Types without long numbers

Sampling fails only for an integer literal with more digits than an integer may have. The parts of a
type expression stand in it without gaps, so where no run of digits is that long, sampling gives a
value, whatever the source of randomness answers: `yields_sampleRecord`.
-/

namespace RouteCatalog

/-- No run of digits in the text, of whatever script, is longer than an integer may be. -/
def HasShortNumbers (text : Text) : Prop :=
  ∀ digits, digits <:+: text → (∀ character ∈ digits, isDigit character = true) →
    digits.length ≤ maxIntegerDigits

theorem HasShortNumbers.of_isInfix {part text : Text} (short : HasShortNumbers text)
    (within : part <:+: text) : HasShortNumbers part :=
  fun digits inPart => short digits (inPart.trans within)

/-- A text that is short has no long numbers. -/
theorem HasShortNumbers.of_length {text : Text} (small : text.length ≤ maxIntegerDigits) :
    HasShortNumbers text :=
  fun _ within _ => within.length_le.trans small

section Integers

variable {text : Text} {character : Char}

/-- A digit of whatever script has its form in ASCII. -/
theorem exists_asciiNumeral?_of_isDigit (digit : isDigit character = true) :
    ∃ ascii, asciiNumeral? character = some ascii ∧ ascii.isDigit = true := by
  obtain ⟨value, denotes⟩ := Option.isSome_iff_exists.mp digit
  by_cases small : character.toNat < 128
  · refine ⟨character, by simp [asciiNumeral?, small], ?_⟩
    simp only [digitValue?, small, if_true] at denotes
    split at denotes
    · rename_i range
      simp only [Bool.and_eq_true, decide_eq_true_eq] at range
      simp only [Char.isDigit, Bool.and_eq_true, decide_eq_true_eq, ge_iff_le, UInt32.le_iff_toNat_le]
      exact range
    · cases denotes
  · have noBlank : isBlank character = false := by
      refine Bool.eq_false_iff.mpr fun blank => ?_
      have codes : ∀ code ∈ blankCodes, isDigit (Char.ofNat code) = false := by decide +kernel
      have found := codes _ (mem_blankCodes blank)
      rw [Char.ofNat_toNat, digit] at found
      cases found
    have forms : ∀ value < 10, (Char.ofNat (48 + value)).isDigit = true := by decide
    exact ⟨Char.ofNat (48 + value), by simp [asciiNumeral?, small, noBlank, denotes],
      forms value (digitValue?_lt denotes)⟩

/-- Digits of whatever scripts have their forms in ASCII. -/
theorem exists_mapM_asciiNumeral? (digits : ∀ character ∈ text, isDigit character = true) :
    ∃ ascii : Text, text.mapM asciiNumeral? = some ascii ∧
      (∀ character ∈ ascii, character.isDigit = true) ∧ ascii.length = text.length := by
  induction text with
  | nil => exact ⟨[], rfl, by simp, rfl⟩
  | cons first rest inductionHypothesis =>
    obtain ⟨numeral, made, numeralDigit⟩ := exists_asciiNumeral?_of_isDigit (digits first (by simp))
    obtain ⟨ascii, madeRest, asciiDigits, length⟩ := inductionHypothesis fun character member =>
      digits character (List.mem_cons_of_mem first member)
    exact ⟨numeral :: ascii, by simp [List.mapM_cons, made, madeRest],
      List.forall_mem_cons.mpr ⟨numeralDigit, asciiDigits⟩, by simp [length]⟩

/-- Texts with one form in ASCII are read as one integer. -/
theorem readInteger?_of_mapM_eq {other : Text}
    (same : text.mapM asciiNumeral? = other.mapM asciiNumeral?) :
    readInteger? text = readInteger? other := by
  simp only [readInteger?, plainNumeral?, trimmedNumeral?, same]

/-- A minus or nothing and digits of whatever scripts, not too many of them, are read as an integer. -/
theorem isSome_readInteger?_of_digits (negative : Bool)
    (digits : ∀ character ∈ text, isDigit character = true) (nonempty : text ≠ [])
    (bounded : text.length ≤ maxIntegerDigits) :
    (readInteger? ((if negative then ['-'] else []) ++ text)).isSome = true := by
  obtain ⟨ascii, made, asciiDigits, length⟩ := exists_mapM_asciiNumeral? digits
  have asciiNonempty : ascii ≠ [] := fun empty =>
    nonempty (List.length_eq_zero_iff.mp (by rw [← length, empty]; rfl))
  have again : ascii.mapM asciiNumeral? = some ascii :=
    mapM_asciiNumeral? fun character member => isPlainNumeral_of_isDigit (asciiDigits character member)
  have same : ((if negative then ['-'] else []) ++ text).mapM asciiNumeral? =
      ((if negative then ['-'] else []) ++ ascii).mapM asciiNumeral? := by
    rw [List.mapM_append, List.mapM_append, made, again]
  rw [readInteger?_of_mapM_eq same,
    readInteger?_of_isDigit negative asciiDigits asciiNonempty (length ▸ bounded)]
  rfl

end Integers

section Number

variable {text rest : Text} {fractional : Bool}

/-- What stands behind the digits of a number literal: nothing, or a point and the digits of a fraction. -/
inductive IsFractionTail : Bool → Text → Prop where
  | whole : IsFractionTail false []
  | fraction {digits : Text} (all : ∀ character ∈ digits, isDigit character = true) :
      IsFractionTail true ('.' :: digits)

/-- Behind the minus of a number literal stands one without a minus. -/
theorem numberLiteral?_of_minus (literal : numberLiteral? ('-' :: rest) = some fractional) :
    rest.head? ≠ some '-' ∧ numberLiteral? rest = some fractional := by
  have unsigned : rest.head? ≠ some '-' := by
    intro minus
    obtain ⟨others, rfl⟩ := List.head?_eq_some_iff.mp minus
    cases literal
  refine ⟨unsigned, ?_⟩
  unfold numberLiteral?
  split
  · exact absurd rfl unsigned
  · exact literal

/-- A number literal without a minus is digits, and behind them a fraction or nothing. -/
theorem exists_of_unsignedLiteral (literal : numberLiteral? text = some fractional)
    (unsigned : text.head? ≠ some '-') :
    ∃ digits tail : Text, text = digits ++ tail ∧ digits ≠ [] ∧
      (∀ character ∈ digits, isDigit character = true) ∧ IsFractionTail fractional tail := by
  have parts : text = text.takeWhile isDigit ++ afterDigits text := List.takeWhile_append_dropWhile.symm
  have leading : ∀ character ∈ text.takeWhile isDigit, isDigit character = true :=
    List.all_eq_true.mp List.all_takeWhile
  unfold numberLiteral? at literal
  split at literal
  · exact absurd rfl unsigned
  · dsimp only at literal
    split at literal
    · cases literal
    · rename_i begins
      have nonempty : text.takeWhile isDigit ≠ [] := by
        intro empty
        exact begins (by rw [leadingDigits, empty]; rfl)
      refine ⟨_, _, parts, nonempty, leading, ?_⟩
      split at literal
      · rename_i nothing
        obtain rfl := Option.some.inj literal
        rw [nothing]
        exact .whole
      · rename_i digits point
        split at literal
        · rename_i complete
          simp only [Bool.and_eq_true, List.isEmpty_iff] at complete
          obtain rfl := Option.some.inj literal
          rw [point]
          exact .fraction (List.dropWhile_eq_nil_iff.mp complete.2)
        · cases literal
      · cases literal

/-- A number literal is a minus or nothing, digits, and behind them a fraction or nothing. -/
theorem exists_of_numberLiteral? (literal : numberLiteral? text = some fractional) :
    ∃ (negative : Bool) (digits tail : Text),
      text = (if negative then ['-'] else []) ++ (digits ++ tail) ∧ digits ≠ [] ∧
        (∀ character ∈ digits, isDigit character = true) ∧ IsFractionTail fractional tail := by
  by_cases minus : text.head? = some '-'
  · obtain ⟨rest, rfl⟩ := List.head?_eq_some_iff.mp minus
    obtain ⟨unsigned, literal⟩ := numberLiteral?_of_minus literal
    obtain ⟨digits, tail, rfl, shape⟩ := exists_of_unsignedLiteral literal unsigned
    exact ⟨true, digits, tail, rfl, shape⟩
  · obtain ⟨digits, tail, rfl, shape⟩ := exists_of_unsignedLiteral literal minus
    exact ⟨false, digits, tail, rfl, shape⟩

/-- In a number literal stand digits, a minus and a point only. -/
theorem mem_numberLiteral? (literal : numberLiteral? text = some fractional)
    {character : Char} (member : character ∈ text) :
    character = '-' ∨ character = '.' ∨ isDigit character = true := by
  obtain ⟨negative, digits, tail, rfl, -, leading, shape⟩ := exists_of_numberLiteral? literal
  rcases List.mem_append.mp member with sign | inUnsigned
  · cases negative with
    | true => exact .inl (List.mem_singleton.mp sign)
    | false => cases sign
  · rcases List.mem_append.mp inUnsigned with inDigits | inTail
    · exact .inr (.inr (leading character inDigits))
    · cases shape with
      | whole => cases inTail
      | fraction all => exact .inr ((List.mem_cons.mp inTail).imp_right (all character))

end Number

section Parts

variable {text part : Text}

theorem isInfix_of_mem_unionBranches (member : part ∈ unionBranches text) : part <:+: text := by
  obtain ⟨whole, inSplit, rfl⟩ := List.mem_map.mp (List.mem_filter.mp member).1
  exact (Text.trim_isInfix whole).trans ((isInfix_of_mem_splitFrom _ _ text).2 whole inSplit)

/-- What is chosen from is a branch. -/
theorem mem_of_mem_unionCandidates {branches : List Text} (member : part ∈ unionCandidates branches) :
    part ∈ branches := by
  simp only [unionCandidates] at member
  split at member
  · exact List.mem_of_mem_take member
  · exact List.mem_of_mem_filter member

/-- An array is its item type before a pair of brackets, or between the marks of an array in words. -/
theorem exists_of_arrayItem? (item : arrayItem? text = some part) :
    text = part ++ ['[', ']'] ∨ ∃ opening ∈ ["Array<".toList, "ReadonlyArray<".toList],
      text = opening ++ (part ++ ['>']) := by
  unfold arrayItem? at item
  split at item
  · rename_i dropped
    obtain rfl := Option.some.inj item
    exact .inl (Text.dropEnding?_eq_some_iff.mp dropped)
  · split at item
    · rename_i argument opened
      obtain rfl := Text.dropEnding?_eq_some_iff.mp item
      have behind := Text.after?_eq_some_iff.mp opened
      refine .inr ?_
      cases readonly : Text.after? "Readonly".toList text with
      | none =>
        rw [readonly, Option.getD_none] at behind
        exact ⟨_, by simp, behind⟩
      | some rest =>
        rw [readonly, Option.getD_some] at behind
        refine ⟨"ReadonlyArray<".toList, by simp, ?_⟩
        rw [Text.after?_eq_some_iff.mp readonly, behind, ← List.append_assoc]
        rfl
    · cases item

theorem isInfix_of_arrayItem? (item : arrayItem? text = some part) : part <:+: text := by
  rcases exists_of_arrayItem? item with rfl | ⟨opening, -, rfl⟩
  · exact (List.prefix_append _ _).isInfix
  · exact ⟨opening, ['>'], by rw [List.append_assoc]⟩

/-- The type of a row stands in the row. -/
theorem isInfix_of_fieldOfRow? {row : Text} {field : Field} (read : fieldOfRow? row = some field) :
    field.type <:+: row := by
  obtain ⟨-, front, gap, tail, -, -, trimmed, rfl⟩ := fieldOfRow?_eq_some_iff.mp read
  have behind : tail <:+: front ++ (field.key ++ (optionalMark field.optional ++ (gap ++ ':' :: tail))) :=
    ⟨front ++ (field.key ++ (optionalMark field.optional ++ (gap ++ [':']))), [], by simp⟩
  rw [trimmed]
  exact (Text.trim_isInfix tail).trans behind

theorem isInfix_of_mem_fieldsOf {field : Field} (member : field ∈ fieldsOf text) :
    field.type <:+: text := by
  unfold fieldsOf at member
  split at member
  · cases member
  · rename_i interior unwrapped
    obtain ⟨row, inRows, read⟩ := List.mem_filterMap.mp member
    have inText : interior <:+: text.trim := by
      rw [unwrapBraces?_eq_some_iff.mp unwrapped]
      exact ⟨['{'], ['}'], by simp⟩
    exact (isInfix_of_fieldOfRow? read).trans
      (((isInfix_of_mem_splitFrom _ _ interior).2 row inRows).trans (inText.trans (Text.trim_isInfix text)))

end Parts

section Sampling

open Sampling

variable {source : RandomSource} {now : Instant} {text : Text}

/-- A type without parts and without long numbers gives a value. -/
theorem yields_sampleScalar (short : HasShortNumbers text) :
    Yields (sampleScalar now text : Sampling source Value) fun _ => True := by
  unfold sampleScalar
  split
  · exact (yields_between (by decide)).bind fun _ _ => .pure trivial
  split
  · exact (yields_below (by decide)).bind fun _ _ => .pure trivial
  split
  · exact yields_fraction.bind fun _ _ => .pure trivial
  split
  · exact .pure trivial
  split
  · exact .pure trivial
  split
  · exact .pure trivial
  split
  · exact .pure trivial
  split
  · split <;> exact .pure trivial
  · rename_i literal
    obtain ⟨negative, digits, tail, rfl, nonempty, all, tailShape⟩ := exists_of_numberLiteral? literal
    cases tailShape with
    | whole =>
      rw [List.append_nil] at short ⊢
      have bounded := short digits (List.suffix_append _ digits).isInfix all
      obtain ⟨number, read⟩ := Option.isSome_iff_exists.mp
        (isSome_readInteger?_of_digits negative all nonempty bounded)
      rw [read]
      exact .pure trivial
  · exact .pure trivial

theorem yields_sampleFields {sample : Text → Sampling source Value} {fields : List Field}
    (each : ∀ field ∈ fields, Yields (sample field.type) fun _ => True)
    (entries : List (Text × Value)) :
    Yields (sampleFields sample fields entries) fun _ => True := by
  induction fields generalizing entries with
  | nil => exact .pure trivial
  | cons field rest inductionHypothesis =>
    have later := inductionHypothesis fun other member => each other (List.mem_cons_of_mem field member)
    have goesOn (included : Bool) : Yields (if included then do
          let value ← sample field.type
          sampleFields sample rest (put field.key value entries)
        else sampleFields sample rest entries) fun _ => True := by
      split
      · exact (each field List.mem_cons_self).bind fun value _ => later _
      · exact later _
    cases optional : field.optional with
    | true =>
      have fractions : Yields (fraction : Sampling source Fraction) fun _ => True := yields_fraction
      have drawn := fractions.bind fun drawn _ => goesOn (drawn.lessThan includeRate)
      simpa [sampleFields, optional] using drawn
    | false => simpa [sampleFields, optional] using goesOn true

/-- A type without long numbers gives a value, however deep its parts are looked at. -/
theorem yields_sampleWithin (fuel : Nat) (short : HasShortNumbers text) :
    Yields (sampleWithin now fuel text : Sampling source Value) fun _ => True := by
  induction fuel generalizing text with
  | zero => exact .pure trivial
  | succ fuel inductionHypothesis =>
    have shortType := short.of_isInfix (Text.trim_isInfix text)
    simp only [sampleWithin]
    generalize text.trim = type at shortType
    split
    · rename_i several
      have nonempty : unionCandidates (unionBranches type) ≠ [] := by
        intro none
        simp only [unionCandidates] at none
        split at none
        · rw [List.take_eq_nil_iff] at none
          rcases none with none | none
          · cases none
          · rw [none] at several
            cases several
        · rename_i some
          exact some (by rw [none]; rfl)
      refine (yields_choose nonempty).bind fun branch chosen => inductionHypothesis ?_
      exact shortType.of_isInfix (isInfix_of_mem_unionBranches (mem_of_mem_unionCandidates chosen))
    · split
      · rename_i item found
        have shortItem := shortType.of_isInfix (isInfix_of_arrayItem? found)
        exact (inductionHypothesis shortItem).bind fun _ _ =>
          (inductionHypothesis shortItem).bind fun _ _ => .pure trivial
      · split
        · refine inductionHypothesis (shortType.of_isInfix ?_)
          exact (List.dropLast_prefix _).isInfix.trans (List.drop_suffix 1 type).isInfix
        · split
          · refine (yields_sampleFields (fun field member => inductionHypothesis
              (shortType.of_isInfix (isInfix_of_mem_fieldsOf member))) []).bind fun _ _ => .pure trivial
          · exact yields_sampleScalar shortType

/-- An object type without long numbers gives a record. -/
theorem yields_sampleRecord (short : HasShortNumbers text) :
    Yields (sampleRecord now text : Sampling source Value) fun _ => True := by
  have each : ∀ field ∈ fieldsOf text, Yields (sampleValue now field.type : Sampling source Value)
      fun _ => True := fun field member =>
    yields_sampleWithin _ (short.of_isInfix (isInfix_of_mem_fieldsOf member))
  exact (yields_sampleFields each []).bind fun _ _ => .pure trivial

end Sampling

end RouteCatalog
