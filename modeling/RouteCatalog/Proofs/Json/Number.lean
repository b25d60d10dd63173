import RouteCatalog.Json.Reader
import RouteCatalog.Json.Writer
import RouteCatalog.Proofs.Number.Digits
import RouteCatalog.Proofs.Number.Shortest

/-!
# Reading written numbers

A number that is written into a JSON text is read in front of everything that does not go on with a
number: an integer that is not too long (`readScalar?_intText`), and a finite floating-point number in
the notation of documents (`readScalar?_binary64`). The latter has a point or an exponent, and its
digits are a decimal that reads back.
-/

namespace RouteCatalog

namespace Json

/-- The text does not go on with a number. -/
def EndsNumber (text : Text) : Prop :=
  ∀ first ∈ text.head?, first.isDigit = false ∧ first ≠ '.' ∧ first ≠ 'e' ∧ first ≠ 'E'

section Numbers

variable {rest : Text}

/-- Digits are read up to what is no digit. -/
theorem readDigits?_append {digits : Text} (nonempty : digits ≠ [])
    (all : ∀ character ∈ digits, character.isDigit = true)
    (ends : ∀ first ∈ rest.head?, first.isDigit = false) :
    readDigits? (digits ++ rest) = some (digits, rest) := by
  have stops : rest.takeWhile Char.isDigit = [] ∧ rest.dropWhile Char.isDigit = rest := by
    cases rest with
    | nil => exact ⟨rfl, rfl⟩
    | cons first others => simp [ends first (by simp)]
  rw [readDigits?, List.takeWhile_append_of_pos all, List.dropWhile_append_of_pos all, stops.1,
    stops.2]
  simp [nonempty]

/-- Digits that begin with a zero only if there are no others are read as a whole number. -/
theorem readWhole?_append {digits : Text} (nonempty : digits ≠ [])
    (all : ∀ character ∈ digits, character.isDigit = true)
    (noZero : digits.head? = some '0' → digits.length = 1)
    (ends : ∀ first ∈ rest.head?, first.isDigit = false) :
    readWhole? (digits ++ rest) = some (digits, rest) := by
  have regular : ¬(digits.head? = some '0' ∧ digits.length ≠ 1) := fun both => both.2 (noZero both.1)
  rw [readWhole?, readDigits?_append nonempty all ends]
  simp only [Option.bind_eq_bind, Option.bind_some, if_neg regular]

/-- The text of a number begins with a zero only if the number is zero. -/
theorem length_natText_of_zero {number : Nat} (zero : (natText number).head? = some '0') :
    (natText number).length = 1 := by
  by_cases nothing : number = 0
  · subst nothing
    rfl
  · exact absurd zero (head?_natText nothing)

/-- A number that ends has neither a fraction nor an exponent. -/
theorem readFraction?_of_ends (ends : EndsNumber rest) : readFraction? rest = some ([], rest) := by
  cases rest with
  | nil => rfl
  | cons first others =>
    unfold readFraction?
    split
    · rename_i same
      exact absurd (List.cons.inj same).1 (ends first (by simp)).2.1
    · rfl

theorem readPower?_of_ends (ends : EndsNumber rest) : readPower? rest = some (none, rest) := by
  cases rest with
  | nil => rfl
  | cons first others =>
    obtain ⟨-, -, noLower, noUpper⟩ := ends first (by simp)
    simp [readPower?, noLower, noUpper]

/-- The text of a number begins with a digit. -/
theorem natText_begins (number : Nat) :
    ∃ digit others, digit.isDigit = true ∧ natText number = digit :: others := by
  have nonempty : natText number ≠ [] := natText_ne_nil
  obtain ⟨digit, others, same⟩ := List.exists_cons_of_ne_nil nonempty
  exact ⟨digit, others, isDigit_of_mem_natText (by rw [same]; simp), same⟩

/-- Read a number behind its sign. -/
def readUnsigned? (negative : Bool) (body : Text) : Option (Value × Text) := do
  let (whole, following) ← readWhole? body
  let (fraction, following) ← readFraction? following
  let (power, following) ← readPower? following
  if maxIntegerDigits < whole.length then none
  else if fraction.isEmpty ∧ power.isNone then
    some (.int (signedInt negative (asciiDigitsValue whole)), following)
  else
    let exponent := power.getD 0 - fraction.length
    let decimal : Decimal := ⟨negative, asciiDigitsValue (whole ++ fraction), exponent⟩
    some (.float (Binary64.ofDecimal decimal), following)

/-- A number is read behind its sign, if there is one. -/
theorem readNumber?_sign (negative : Bool) {body : Text} (noMinus : body.head? ≠ some '-') :
    readNumber? ((if negative then ['-'] else []) ++ body) = readUnsigned? negative body := by
  cases negative with
  | true => rfl
  | false =>
    cases body with
    | nil => rfl
    | cons first others =>
      have other : first ≠ '-' := by simpa using noMinus
      unfold readNumber? readUnsigned?
      split
      rename_i sign found read
      split at read
      · rename_i same
        exact absurd (List.cons.inj same).1 other
      · cases read
        rfl

/-- Behind its sign, if there is one, a number is read from its digits. -/
theorem readNumber?_natText (negative : Bool) {magnitude : Nat}
    (few : (natText magnitude).length ≤ maxIntegerDigits) (ends : EndsNumber rest) :
    readNumber? ((if negative then ['-'] else []) ++ (natText magnitude ++ rest)) =
      some (.int (signedInt negative magnitude), rest) := by
  have value : asciiDigitsValue (natText magnitude) = magnitude := digitsValue_natText
  have noMinus : (natText magnitude ++ rest).head? ≠ some '-' := by
    obtain ⟨digit, others, isDigit, written⟩ := natText_begins magnitude
    rw [written]
    rintro same
    rw [List.cons_append, List.head?_cons, Option.some.injEq] at same
    rw [same] at isDigit
    exact absurd isDigit (by decide)
  have whole : readWhole? (natText magnitude ++ rest) = some (natText magnitude, rest) :=
    readWhole?_append natText_ne_nil (fun _ => isDigit_of_mem_natText) length_natText_of_zero
      fun first member => (ends first member).1
  rw [readNumber?_sign negative noMinus, readUnsigned?]
  simp only [whole, Option.bind_eq_bind, Option.bind_some, readFraction?_of_ends ends,
    readPower?_of_ends ends, value]
  rw [if_neg (Nat.not_lt.mpr few)]
  rfl

/-- An integer is read from its text. -/
theorem readNumber?_intText {number : Int} (bounded : isTooLong number = false)
    (ends : EndsNumber rest) : readNumber? (intText number ++ rest) = some (.int number, rest) := by
  simp only [isTooLong, decide_eq_false_iff_not, Nat.not_lt] at bounded
  cases number with
  | ofNat magnitude => exact readNumber?_natText false bounded ends
  | negSucc below => exact readNumber?_natText true bounded ends

/-- The text begins with a digit, or with a minus and a digit. -/
def NumberBegins (text : Text) : Prop :=
  ∃ digit others, digit.isDigit = true ∧ (text = digit :: others ∨ text = '-' :: digit :: others)

theorem numberBegins_intText (number : Int) : NumberBegins (intText number) := by
  cases number with
  | ofNat magnitude =>
    obtain ⟨digit, others, isDigit, same⟩ := natText_begins magnitude
    exact ⟨digit, others, isDigit, .inl same⟩
  | negSucc below =>
    obtain ⟨digit, others, isDigit, same⟩ := natText_begins (below + 1)
    exact ⟨digit, others, isDigit, .inr (congrArg ('-' :: ·) same)⟩

/-- A number begins with neither a space nor a mark of other values. -/
theorem NumberBegins.exists_cons {text : Text} (begins : NumberBegins text) :
    ∃ first others, text = first :: others ∧ isSpace first = false ∧
      first ≠ '"' ∧ first ≠ '[' ∧ first ≠ '{' := by
  obtain ⟨digit, others, isDigit, same | same⟩ := begins
  · have other : ∀ letter, letter.isDigit = false → digit ≠ letter := by
      rintro letter noDigit rfl
      simp [isDigit] at noDigit
    refine ⟨digit, others, same, ?_, other _ (by decide), other _ (by decide), other _ (by decide)⟩
    simp [isSpace, other]
  · exact ⟨'-', digit :: others, same, by decide, by decide, by decide, by decide⟩

/-- A text that begins with no name is read as a number. -/
theorem readScalar?_of_names {text : Text}
    (unnamed : ∀ entry ∈ names, Text.after? entry.1 text = none) :
    readScalar? text = readNumber? text := by
  unfold readScalar?
  split
  · rename_i found named
    obtain ⟨entry, member, read⟩ := List.exists_of_findSome?_eq_some named
    simp [unnamed entry member] at read
  · rfl

/-- No name begins as a number does. -/
theorem readScalar?_of_begins {text : Text} (begins : NumberBegins text) :
    readScalar? (text ++ rest) = readNumber? (text ++ rest) := by
  refine readScalar?_of_names ?_
  obtain ⟨digit, others, isDigit, same⟩ := begins
  have other : ∀ letter, letter.isDigit = false → letter ≠ digit := by
    rintro letter noDigit rfl
    simp [isDigit] at noDigit
  have letters : 'n' ≠ digit ∧ 't' ≠ digit ∧ 'f' ≠ digit ∧ 'N' ≠ digit ∧ 'I' ≠ digit ∧
      '-' ≠ digit := by
    refine ⟨?_, ?_, ?_, ?_, ?_, ?_⟩ <;> exact other _ (by decide)
  rcases same with same | same
  · simp [names, same, Text.after?, letters]
  · simp [names, same, Text.after?, letters]

/-- An integer is read from its text. -/
theorem readScalar?_intText {number : Int} (bounded : isTooLong number = false)
    (ends : EndsNumber rest) : readScalar? (intText number ++ rest) = some (.int number, rest) := by
  rw [readScalar?_of_begins (numberBegins_intText number)]
  exact readNumber?_intText bounded ends

end Numbers

section Digits

variable {digits : Text}

/-- The value of digits that are put together. -/
theorem asciiDigitsValue_append {front back : Text}
    (all : ∀ character ∈ back, character.isDigit = true) :
    asciiDigitsValue (front ++ back) =
      asciiDigitsValue front * 10 ^ back.length + asciiDigitsValue back := by
  have count : (back.filterMap digitValue?).length = back.length := by
    rw [filterMap_digitValue? all, List.length_map]
  rw [asciiDigitsValue, List.filterMap_append, digitsValue_append, count]
  rfl

theorem asciiDigitsValue_replicate (places : Nat) :
    asciiDigitsValue (List.replicate places '0') = 0 := by
  induction places with
  | zero => rfl
  | succ places inductionHypothesis =>
    have zeros : ∀ character ∈ List.replicate places '0', character.isDigit = true := by
      intro character member
      rw [List.eq_of_mem_replicate member]
      decide
    rw [List.replicate_succ, ← List.singleton_append, asciiDigitsValue_append zeros,
      inductionHypothesis]
    have zero : asciiDigitsValue ['0'] = 0 := by decide
    rw [zero, Nat.zero_mul]

/-- Zeros before digits do not count. -/
theorem asciiDigitsValue_zeros (places : Nat)
    (all : ∀ character ∈ digits, character.isDigit = true) :
    asciiDigitsValue (List.replicate places '0' ++ digits) = asciiDigitsValue digits := by
  rw [asciiDigitsValue_append all, asciiDigitsValue_replicate, Nat.zero_mul, Nat.zero_add]

end Digits

section Decimal

/-- A decimal as it is written: digits before a point, digits after it and an exponent, where the
point goes with the digits after it. -/
structure DecimalText where
  whole : Text
  fraction : Text := []
  /-- Is the exponent negative, and its digits. -/
  power? : Option (Bool × Text) := none

namespace DecimalText

variable {text : DecimalText} {rest : Text}

/-- The point with the digits after it. -/
def fractionText (text : DecimalText) : Text :=
  if text.fraction = [] then [] else '.' :: text.fraction

/-- The exponent as text. -/
def powerText (text : DecimalText) : Text :=
  match text.power? with
  | none => []
  | some (negative, digits) => 'e' :: (if negative then '-' else '+') :: digits

/-- The decimal as text. -/
def write (text : DecimalText) : Text :=
  text.whole ++ (text.fractionText ++ text.powerText)

/-- The exponent that is written. -/
def exponent (text : DecimalText) : Int :=
  match text.power? with
  | none => 0
  | some (negative, digits) => signedInt negative (asciiDigitsValue digits)

/-- The decimal behind a sign. -/
def decimal (text : DecimalText) (negative : Bool) : Decimal :=
  ⟨negative, asciiDigitsValue (text.whole ++ text.fraction),
    text.exponent - text.fraction.length⟩

/-- The parts are digits, there are not too many before the point and no zero in front of others, and
something tells the decimal from an integer. -/
structure IsRegular (text : DecimalText) : Prop where
  nonempty : text.whole ≠ []
  whole : ∀ character ∈ text.whole, character.isDigit = true
  noZero : text.whole.head? = some '0' → text.whole.length = 1
  few : text.whole.length ≤ maxIntegerDigits
  fraction : ∀ character ∈ text.fraction, character.isDigit = true
  power : ∀ power ∈ text.power?, power.2 ≠ [] ∧ ∀ character ∈ power.2, character.isDigit = true
  marked : text.fraction ≠ [] ∨ text.power?.isSome = true

/-- An exponent is read up to the end of the number. -/
theorem readPower?_powerText (regular : text.IsRegular) (ends : EndsNumber rest) :
    readPower? (text.powerText ++ rest) = some (text.power?.map fun _ => text.exponent, rest) := by
  cases written : text.power? with
  | none => simp [powerText, written, readPower?_of_ends ends]
  | some power =>
    obtain ⟨negative, digits⟩ := power
    obtain ⟨nonempty, all⟩ := regular.power (negative, digits) written
    have read := readDigits?_append nonempty all fun first member => (ends first member).1
    cases negative <;> simp [powerText, readPower?, takeSign, read, exponent, written]

/-- No digits go on with an exponent or behind the number. -/
theorem noDigit_powerText (ends : EndsNumber rest) :
    ∀ first ∈ (text.powerText ++ rest).head?, first.isDigit = false ∧ first ≠ '.' := by
  intro first member
  cases written : text.power? with
  | none =>
    rw [powerText, written, List.nil_append] at member
    exact ⟨(ends first member).1, (ends first member).2.1⟩
  | some power =>
    rw [powerText, written] at member
    obtain rfl : 'e' = first := by simpa using member
    decide

/-- Digits after a point are read, or there are none. -/
theorem readFraction?_fractionText (regular : text.IsRegular) (ends : EndsNumber rest) :
    readFraction? (text.fractionText ++ (text.powerText ++ rest)) =
      some (text.fraction, text.powerText ++ rest) := by
  have apart : ∀ first ∈ (text.powerText ++ rest).head?, first.isDigit = false ∧ first ≠ '.' :=
    noDigit_powerText ends
  by_cases empty : text.fraction = []
  · simp only [fractionText, empty, if_true, List.nil_append]
    cases behind : text.powerText ++ rest with
    | nil => rfl
    | cons first others =>
      have noPoint : first ≠ '.' := (apart first (by rw [behind]; rfl)).2
      unfold readFraction?
      split
      · rename_i same
        exact absurd (List.cons.inj same).1 noPoint
      · rfl
  · simp only [fractionText, empty, if_false, List.cons_append, readFraction?]
    exact readDigits?_append empty regular.fraction fun first member => (apart first member).1

/-- A decimal is read behind its sign and in front of the end of the number. -/
theorem readNumber?_write (negative : Bool) (regular : text.IsRegular) (ends : EndsNumber rest) :
    readNumber? ((if negative then ['-'] else []) ++ (text.write ++ rest)) =
      some (.float (Binary64.ofDecimal (text.decimal negative)), rest) := by
  obtain ⟨first, others, same⟩ := List.exists_cons_of_ne_nil regular.nonempty
  have noMinus : (text.write ++ rest).head? ≠ some '-' := by
    have digit := regular.whole first (by rw [same]; simp)
    rw [write, same, List.cons_append, List.cons_append, List.head?_cons]
    rintro minus
    rw [Option.some.inj minus] at digit
    exact absurd digit (by decide)
  have apart : ∀ first ∈ (text.fractionText ++ (text.powerText ++ rest)).head?,
      first.isDigit = false := by
    intro first member
    by_cases empty : text.fraction = []
    · rw [fractionText, if_pos empty] at member
      exact (noDigit_powerText ends first member).1
    · rw [fractionText, if_neg empty] at member
      obtain rfl : '.' = first := by simpa using member
      decide
  have whole : readWhole? (text.write ++ rest) =
      some (text.whole, text.fractionText ++ (text.powerText ++ rest)) := by
    rw [write, List.append_assoc, List.append_assoc]
    exact readWhole?_append regular.nonempty regular.whole regular.noZero apart
  have isFloat : ¬(text.fraction.isEmpty = true ∧ text.power?.isNone = true) := by
    rintro ⟨noFraction, noPower⟩
    rcases regular.marked with fraction | power
    · exact fraction (List.isEmpty_iff.mp noFraction)
    · rw [Option.isNone_iff_eq_none.mp noPower] at power
      cases power
  have power : (text.power?.map fun _ => text.exponent).getD 0 = text.exponent := by
    cases written : text.power? with
    | none => simp [exponent, written]
    | some _ => rfl
  rw [readNumber?_sign negative noMinus, readUnsigned?]
  simp only [whole, readFraction?_fractionText regular ends, readPower?_powerText regular ends,
    Option.bind_eq_bind, Option.bind_some, if_neg (Nat.not_lt.mpr regular.few), Option.isNone_map,
    if_neg isFloat, power]
  rfl

end DecimalText

end Decimal

section Notation

variable {digits : Text} {exponent : Int}

/-- The decimal text states the digits at the decimal exponent of their first one. -/
structure DecimalText.States (text : DecimalText) (digits : Text) (exponent : Int) : Prop where
  regular : text.IsRegular
  magnitude : ∀ negative, (text.decimal negative).magnitude =
    asciiDigitsValue digits * 10 ^ (exponent + 1 - digits.length)

theorem isDigit_of_mem_zeros {places : Nat} {character : Char}
    (member : character ∈ List.replicate places '0') : character.isDigit = true := by
  rw [List.eq_of_mem_replicate member]
  decide

/-- Digits on both sides of a point are regular without an exponent. -/
theorem DecimalText.isRegular_of_point {whole fraction : Text} (nonempty : whole ≠ [])
    (further : fraction ≠ []) (noZero : whole.head? = some '0' → whole.length = 1)
    (few : whole.length ≤ maxIntegerDigits)
    (all : ∀ character ∈ whole ++ fraction, character.isDigit = true) :
    DecimalText.IsRegular ⟨whole, fraction, none⟩ where
  nonempty := nonempty
  whole := (List.forall_mem_append.mp all).1
  noZero := noZero
  few := few
  fraction := (List.forall_mem_append.mp all).2
  power := by simp
  marked := .inl further

/-- Without an exponent, the digits count as many places down as there are behind the point. -/
theorem DecimalText.magnitude_of_point (whole fraction : Text) (negative : Bool) :
    (DecimalText.decimal ⟨whole, fraction, none⟩ negative).magnitude =
      asciiDigitsValue (whole ++ fraction) * 10 ^ (-(fraction.length : Int)) := by
  simp only [Decimal.magnitude, DecimalText.decimal, DecimalText.exponent, zero_sub]

/-- Digits behind a point, with zeros between the two, state the digits. -/
theorem positional_states_of_neg (nonempty : digits ≠ [])
    (all : ∀ character ∈ digits, character.isDigit = true) (below : exponent < 0) :
    ∃ text : DecimalText, FloatNotation.positional digits exponent = text.write ∧
      text.States digits exponent := by
  let zeros := List.replicate (-exponent - 1).toNat '0'
  have fraction : ∀ character ∈ zeros ++ digits, character.isDigit = true :=
    List.forall_mem_append.mpr ⟨fun _ => isDigit_of_mem_zeros, all⟩
  have value : asciiDigitsValue (['0'] ++ (zeros ++ digits)) = asciiDigitsValue digits := by
    have one := asciiDigitsValue_zeros 1 fraction
    rw [List.replicate_one] at one
    rw [one, asciiDigitsValue_zeros _ all]
  have places : -((zeros ++ digits).length : Int) = exponent + 1 - digits.length := by
    simp only [zeros, List.length_append, List.length_replicate]
    omega
  refine ⟨⟨['0'], zeros ++ digits, none⟩, ?_, DecimalText.isRegular_of_point (by simp)
    (by simp [nonempty]) (fun _ => rfl) (by simp [maxIntegerDigits])
    (List.forall_mem_cons.mpr ⟨rfl, fraction⟩), fun negative => ?_⟩
  · simp [FloatNotation.positional, below, DecimalText.write, DecimalText.fractionText,
      DecimalText.powerText, nonempty, zeros]
  · rw [DecimalText.magnitude_of_point, value, places]

/-- Digits in front of a point, with zeros between the two, state the digits. -/
theorem positional_states_of_length_le (nonempty : digits ≠ [])
    (all : ∀ character ∈ digits, character.isDigit = true) (noZero : digits.head? ≠ some '0')
    (notBelow : ¬exponent < 0) (few : exponent.toNat + 1 ≤ maxIntegerDigits)
    (short : digits.length ≤ exponent.toNat + 1) :
    ∃ text : DecimalText, FloatNotation.positional digits exponent = text.write ∧
      text.States digits exponent := by
  let zeros := List.replicate (exponent.toNat + 1 - digits.length) '0'
  have whole : ∀ character ∈ digits ++ zeros, character.isDigit = true :=
    List.forall_mem_append.mpr ⟨all, fun _ => isDigit_of_mem_zeros⟩
  have single : ∀ character ∈ ['0'], character.isDigit = true := List.forall_mem_singleton.mpr rfl
  have length : (digits ++ zeros).length = exponent.toNat + 1 := by
    simp only [zeros, List.length_append, List.length_replicate]
    omega
  have value : asciiDigitsValue (digits ++ zeros ++ ['0']) =
      asciiDigitsValue digits * 10 ^ (exponent.toNat + 1 - digits.length) * 10 := by
    have zero : asciiDigitsValue ['0'] = 0 := by decide
    rw [asciiDigitsValue_append single, zero,
      asciiDigitsValue_append fun _ => isDigit_of_mem_zeros, asciiDigitsValue_replicate]
    simp
  have power : (exponent + 1 - digits.length : Int) =
      ((exponent.toNat + 1 - digits.length : Nat) : Int) := by omega
  refine ⟨⟨digits ++ zeros, ['0'], none⟩, ?_, DecimalText.isRegular_of_point (by simp [nonempty])
    (by simp) (fun zero => ?_) (length.trans_le few) (List.forall_mem_append.mpr ⟨whole, single⟩),
    fun negative => ?_⟩
  · simp [FloatNotation.positional, notBelow, DecimalText.write, DecimalText.fractionText,
      DecimalText.powerText, zeros, List.take_of_length_le short, List.drop_eq_nil_iff.mpr short]
  · rw [List.head?_append_of_ne_nil _ nonempty] at zero
    exact absurd zero noZero
  · rw [DecimalText.magnitude_of_point, value, power, zpow_natCast]
    push_cast
    norm_num
    ring

/-- Digits with a point among them state the digits. -/
theorem positional_states_of_lt_length (nonempty : digits ≠ [])
    (all : ∀ character ∈ digits, character.isDigit = true) (noZero : digits.head? ≠ some '0')
    (notBelow : ¬exponent < 0) (few : exponent.toNat + 1 ≤ maxIntegerDigits)
    (long : exponent.toNat + 1 < digits.length) :
    ∃ text : DecimalText, FloatNotation.positional digits exponent = text.write ∧
      text.States digits exponent := by
  have split := List.take_append_drop (exponent.toNat + 1) digits
  have length : (digits.take (exponent.toNat + 1)).length = exponent.toNat + 1 :=
    List.length_take_of_le long.le
  have further : digits.drop (exponent.toNat + 1) ≠ [] := by
    rw [ne_eq, List.drop_eq_nil_iff]
    exact long.not_ge
  have places : -((digits.drop (exponent.toNat + 1)).length : Int) =
      exponent + 1 - digits.length := by
    rw [List.length_drop]
    omega
  refine ⟨⟨digits.take (exponent.toNat + 1), digits.drop (exponent.toNat + 1), none⟩, ?_,
    DecimalText.isRegular_of_point (by simp [nonempty]) further (fun zero => ?_)
      (length.trans_le few) (by rwa [split]), fun negative => ?_⟩
  · have none : exponent.toNat + 1 - digits.length = 0 := by omega
    simp [FloatNotation.positional, notBelow, DecimalText.write, DecimalText.fractionText,
      DecimalText.powerText, further, none]
  · rw [List.head?_take, if_neg (Nat.succ_ne_zero _)] at zero
    exact absurd zero noZero
  · rw [DecimalText.magnitude_of_point, split, places]

/-- Digits with a point state the digits, wherever the point stands. -/
theorem positional_states (nonempty : digits ≠ [])
    (all : ∀ character ∈ digits, character.isDigit = true) (noZero : digits.head? ≠ some '0')
    (small : exponent < maxIntegerDigits) :
    ∃ text : DecimalText, FloatNotation.positional digits exponent = text.write ∧
      text.States digits exponent := by
  by_cases below : exponent < 0
  · exact positional_states_of_neg nonempty all below
  · have few : exponent.toNat + 1 ≤ maxIntegerDigits := by
      unfold maxIntegerDigits at small ⊢
      omega
    rcases Nat.lt_or_ge (exponent.toNat + 1) digits.length with long | short
    · exact positional_states_of_lt_length nonempty all noZero below few long
    · exact positional_states_of_length_le nonempty all noZero below few short

/-- Digits with a point after the first and an exponent state the digits. -/
theorem scientific_states (width : Nat) (nonempty : digits ≠ [])
    (all : ∀ character ∈ digits, character.isDigit = true) :
    ∃ text : DecimalText, FloatNotation.scientific width digits exponent = text.write ∧
      text.States digits exponent := by
  obtain ⟨first, others, rfl⟩ := List.exists_cons_of_ne_nil nonempty
  have power : ∀ character ∈ List.replicate (width - (natText exponent.natAbs).length) '0' ++
      natText exponent.natAbs, character.isDigit = true :=
    List.forall_mem_append.mpr ⟨fun _ => isDigit_of_mem_zeros, fun _ => isDigit_of_mem_natText⟩
  have written : asciiDigitsValue (List.replicate (width - (natText exponent.natAbs).length) '0' ++
      natText exponent.natAbs) = exponent.natAbs := by
    rw [asciiDigitsValue_zeros _ fun _ => isDigit_of_mem_natText]
    exact digitsValue_natText
  have signed : signedInt (decide (exponent < 0)) exponent.natAbs = exponent := by
    unfold signedInt
    by_cases below : exponent < 0
    · rw [if_pos (decide_eq_true below)]
      omega
    · rw [if_neg (by simpa using below)]
      omega
  refine ⟨⟨[first], others, some (decide (exponent < 0),
      List.replicate (width - (natText exponent.natAbs).length) '0' ++ natText exponent.natAbs)⟩, ?_,
    ⟨⟨by simp, by simpa using all first (by simp), fun _ => rfl, by simp [maxIntegerDigits],
      fun _ member => all _ (List.mem_cons_of_mem _ member), ?_, .inr rfl⟩, fun negative => ?_⟩⟩
  · cases others with
    | nil => simp [FloatNotation.scientific, DecimalText.write, DecimalText.fractionText,
        DecimalText.powerText]
    | cons second rest => simp [FloatNotation.scientific, DecimalText.write,
        DecimalText.fractionText, DecimalText.powerText]
  · rintro _ ⟨⟩
    exact ⟨by simp [natText_ne_nil], power⟩
  · have places : exponent - (others.length : Int) = exponent + 1 - (first :: others).length := by
      rw [List.length_cons]
      push_cast
      ring
    simp only [Decimal.magnitude, DecimalText.decimal, DecimalText.exponent, written, signed,
      List.singleton_append, places]

end Notation

section Binary64

open Binary64

/-- The notation of documents states the shortest decimal of a value behind its sign. -/
theorem exists_states_write {style : FloatNotation} (bounded : style.firstScientific ≤ maxIntegerDigits)
    (negative : Bool) {significand : Nat} {exponent : Int} (nonzero : 0 < significand)
    (some : 0 < (shortest significand exponent).1) : ∃ text : DecimalText,
      style.write (.finite negative significand exponent) =
        (if negative then ['-'] else []) ++ text.write ∧ text.IsRegular ∧
          (text.decimal negative).magnitude =
            (shortest significand exponent).1 * 10 ^ (shortest significand exponent).2 := by
  have nonempty : natText (shortest significand exponent).1 ≠ [] := natText_ne_nil
  have all : ∀ character ∈ natText (shortest significand exponent).1, character.isDigit = true :=
    fun _ => isDigit_of_mem_natText
  have value : asciiDigitsValue (natText (shortest significand exponent).1) =
      (shortest significand exponent).1 := digitsValue_natText
  have states : ∀ text : DecimalText, text.States (natText (shortest significand exponent).1)
      ((shortest significand exponent).2 + (natText (shortest significand exponent).1).length - 1) →
        (text.decimal negative).magnitude =
          (shortest significand exponent).1 * 10 ^ (shortest significand exponent).2 := by
    intro text states
    rw [states.magnitude, value]
    congr 2
    ring
  by_cases positional : style.leastPositional ≤ (shortest significand exponent).2 +
      (natText (shortest significand exponent).1).length - 1 ∧ (shortest significand exponent).2 +
        (natText (shortest significand exponent).1).length - 1 < style.firstScientific
  · obtain ⟨text, same, stated⟩ := positional_states nonempty all (head?_natText some.ne')
      (lt_of_lt_of_le positional.2 bounded)
    refine ⟨text, ?_, stated.regular, states text stated⟩
    simp only [FloatNotation.write, if_neg nonzero.ne', if_pos positional, same]
  · obtain ⟨text, same, stated⟩ := scientific_states style.exponentWidth nonempty all
    refine ⟨text, ?_, stated.regular, states text stated⟩
    simp only [FloatNotation.write, if_neg nonzero.ne', if_neg positional, same]

/-- A finite value is written as a decimal behind its sign that reads back as the value. -/
theorem exists_write {style : FloatNotation} (bounded : style.firstScientific ≤ maxIntegerDigits)
    {number : Binary64} (finite : number.IsFinite) : ∃ (negative : Bool) (text : DecimalText),
      style.write number = (if negative then ['-'] else []) ++ text.write ∧ text.IsRegular ∧
        ofDecimal (text.decimal negative) = number := by
  cases number with
  | infinite negative => exact finite.elim
  | notANumber => exact finite.elim
  | finite negative significand exponent =>
    rcases Nat.eq_zero_or_pos significand with nothing | nonzero
    · have least : exponent = leastExponent := by
        rcases finite.normal with least | normal
        · exact least
        · rw [nothing] at normal
          exact absurd normal (by decide)
      have digits : ∀ character ∈ ['0'], character.isDigit = true :=
        List.forall_mem_singleton.mpr rfl
      have regular : (⟨['0'], ['0'], none⟩ : DecimalText).IsRegular :=
        ⟨by simp, digits, fun _ => rfl, by simp [maxIntegerDigits], digits, by simp, .inl (by simp)⟩
      refine ⟨negative, _, ?_, regular, ?_⟩
      · simp [FloatNotation.write, DecimalText.write, DecimalText.fractionText,
          DecimalText.powerText, nothing]
      · rw [nothing, least]
        rfl
    · have rounds := shortest_roundsTo finite nonzero
      have some : 0 < (shortest significand exponent).1 := by
        refine Nat.pos_of_ne_zero fun none => ?_
        have above := (rounds.bounds finite nonzero).1
        rw [none, Nat.cast_zero, zero_mul] at above
        exact absurd above (not_le.mpr (by positivity))
      obtain ⟨text, written, regular, magnitude⟩ := exists_states_write bounded negative nonzero some
      rw [← magnitude] at rounds
      exact ⟨negative, text, written, regular, ofDecimal_of_roundsTo finite nonzero rounds⟩

theorem numberBegins_binary64 {style : FloatNotation}
    (bounded : style.firstScientific ≤ maxIntegerDigits) {number : Binary64}
    (finite : number.IsFinite) : NumberBegins (style.write number) := by
  obtain ⟨negative, text, written, regular, -⟩ := exists_write bounded finite
  obtain ⟨first, others, same⟩ := List.exists_cons_of_ne_nil regular.nonempty
  have digit := regular.whole first (by rw [same]; simp)
  rw [written, DecimalText.write, same]
  cases negative with
  | true => exact ⟨first, _, digit, .inr rfl⟩
  | false => exact ⟨first, _, digit, .inl rfl⟩

/-- A finite value is read from what is written of it. -/
theorem readScalar?_binary64 {style : FloatNotation}
    (bounded : style.firstScientific ≤ maxIntegerDigits) {number : Binary64}
    (finite : number.IsFinite) (ends : EndsNumber rest) :
    readScalar? (style.write number ++ rest) = some (.float number, rest) := by
  obtain ⟨negative, text, written, regular, value⟩ := exists_write bounded finite
  rw [readScalar?_of_begins (numberBegins_binary64 bounded finite), written, List.append_assoc,
    DecimalText.readNumber?_write negative regular ends, value]

end Binary64

end Json

end RouteCatalog
