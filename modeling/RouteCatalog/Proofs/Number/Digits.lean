import Mathlib.Data.List.Induction
import Mathlib.Data.List.TakeWhile
import Mathlib.Tactic.Ring
import RouteCatalog.Number.Decimal

/-!
# Written integers

The text of a number is its digits, without a zero in front (`head?_natText`), and reading them
gives the number (`digitsValue_natText`). The text of an integer is read as that integer if its
digits are not too many: `readInteger?_intText`.
-/

namespace RouteCatalog

section Digit

variable {character : Char}

/-- The code of an ASCII digit. -/
theorem toNat_of_isDigit (digit : character.isDigit = true) :
    48 ≤ character.toNat ∧ character.toNat ≤ 57 :=
  Char.isDigit_iff_toNat.mp digit

/-- The value of an ASCII digit. -/
theorem digitValue?_of_isDigit (digit : character.isDigit = true) :
    digitValue? character = some (character.toNat - 48) := by
  obtain ⟨lower, upper⟩ := toNat_of_isDigit digit
  have ascii : character.toNat < 128 := by omega
  simp [digitValue?, ascii, lower, upper]

/-- An ASCII digit is the same in ASCII, and neither a blank nor a sign nor an underscore. -/
theorem numeral_of_isDigit (digit : character.isDigit = true) :
    asciiNumeral? character = some character ∧ isAsciiBlank character = false ∧
      character ≠ '_' ∧ character ≠ '-' ∧ character ≠ '+' := by
  obtain ⟨lower, upper⟩ := toNat_of_isDigit digit
  have ascii : character.toNat < 128 := by omega
  refine ⟨by simp [asciiNumeral?, ascii], ?_, ?_, ?_, ?_⟩
  · simp only [isAsciiBlank, Bool.or_eq_false_iff, Bool.and_eq_false_iff, decide_eq_false_iff_not,
      beq_eq_false_iff_ne]
    omega
  all_goals
    rintro rfl
    exact absurd digit (by decide)

/-- The values of ASCII digits. -/
theorem filterMap_digitValue? {digits : Text}
    (all : ∀ character ∈ digits, character.isDigit = true) :
    digits.filterMap digitValue? = digits.map fun character => character.toNat - 48 := by
  induction digits with
  | nil => rfl
  | cons first rest inductionHypothesis =>
    rw [List.filterMap_cons, digitValue?_of_isDigit (all first (by simp)), List.map_cons,
      inductionHypothesis fun character member => all character (List.mem_cons_of_mem _ member)]

/-- The value of digits that are put together. -/
theorem digitsValue_append (front back : List Nat) :
    digitsValue (front ++ back) = digitsValue front * 10 ^ back.length + digitsValue back := by
  induction back using List.reverseRecOn with
  | nil => simp [digitsValue]
  | append_singleton back digit inductionHypothesis =>
    have last : ∀ digits : List Nat, digitsValue (digits ++ [digit]) = 10 * digitsValue digits + digit :=
      fun digits => by simp [digitsValue]
    rw [← List.append_assoc, last, last, inductionHypothesis, List.length_append, List.length_singleton,
      pow_succ]
    ring

end Digit

section Natural

variable {number : Nat}

theorem natText_ne_nil : natText number ≠ [] :=
  Nat.toDigits_ne_nil

/-- The text of a number has digits only. -/
theorem isDigit_of_mem_natText {character : Char} (member : character ∈ natText number) :
    character.isDigit = true :=
  Nat.isDigit_of_mem_toDigits (by decide) (by decide) member

/-- The digits of a number have its value. -/
theorem digitsValue_natText : digitsValue ((natText number).filterMap digitValue?) = number := by
  rw [filterMap_digitValue? fun _ => isDigit_of_mem_natText, digitsValue, List.foldl_map]
  exact Nat.ofDigitChars_ten_toDigits

/-- Only zero begins with a zero. -/
theorem head?_natText (positive : number ≠ 0) : (natText number).head? ≠ some '0' := by
  induction number using Nat.strongRecOn with
  | _ number inductionHypothesis =>
    by_cases small : number < 10
    · rw [natText, Nat.toDigits_of_lt_base small]
      have digits : ∀ digit, digit < 10 → digit ≠ 0 → [Nat.digitChar digit].head? ≠ some '0' := by
        decide
      exact digits number small positive
    · have front := inductionHypothesis (number / 10) (by omega) (by omega)
      have nonempty : natText (number / 10) ≠ [] := natText_ne_nil
      obtain ⟨first, rest, same⟩ := List.exists_cons_of_ne_nil nonempty
      rw [same] at front
      rw [natText, Nat.toDigits_of_base_le (by decide) (by omega), ← natText, same]
      exact front

end Natural

section Integer

/-- A character of number text that is the same in ASCII, and neither a blank nor an underscore. -/
def IsPlainNumeral (character : Char) : Prop :=
  asciiNumeral? character = some character ∧ isAsciiBlank character = false ∧ character ≠ '_'

variable {text : Text} {number : Int} {magnitude : Nat}

theorem mapM_asciiNumeral? (plain : ∀ character ∈ text, IsPlainNumeral character) :
    text.mapM asciiNumeral? = some text := by
  induction text with
  | nil => rfl
  | cons first rest inductionHypothesis =>
    have following := inductionHypothesis fun character member =>
      plain character (List.mem_cons_of_mem _ member)
    simp [List.mapM_cons, (plain first (by simp)).1, following]

theorem dropUnderscores?_of_plain (plain : ∀ character ∈ text, IsPlainNumeral character)
    (afterDigit : Bool) : dropUnderscores? afterDigit text = some text := by
  induction text generalizing afterDigit with
  | nil => rfl
  | cons first rest inductionHypothesis =>
    have following := inductionHypothesis fun character member =>
      plain character (List.mem_cons_of_mem _ member)
    simp [dropUnderscores?, (plain first (by simp)).2.2, following]

/-- Number text of plain characters stays as it is. -/
theorem plainNumeral?_of_plain (plain : ∀ character ∈ text, IsPlainNumeral character) :
    plainNumeral? text = some text := by
  have kept : ∀ part : Text, (∀ character ∈ part, isAsciiBlank character = false) →
      part.dropWhile isAsciiBlank = part := by
    intro part noBlank
    cases part with
    | nil => rfl
    | cons first rest => rw [List.dropWhile_cons, if_neg (by simp [noBlank first (by simp)])]
  have noBlank : ∀ character ∈ text, isAsciiBlank character = false :=
    fun character member => (plain character member).2.1
  have trimmed : trimmedNumeral? text = some text := by
    rw [trimmedNumeral?, mapM_asciiNumeral? plain]
    simp [kept text noBlank, kept text.reverse (by simpa using noBlank)]
  simp [plainNumeral?, trimmed, dropUnderscores?_of_plain plain]

/-- The characters of digits are plain. -/
theorem isPlainNumeral_of_isDigit {character : Char} (digit : character.isDigit = true) :
    IsPlainNumeral character := by
  obtain ⟨ascii, noBlank, noUnderscore, -⟩ := numeral_of_isDigit digit
  exact ⟨ascii, noBlank, noUnderscore⟩

/-- There is no sign before digits. -/
theorem takeSign_of_isDigit (digits : ∀ character ∈ text, character.isDigit = true) :
    takeSign text = (false, text) := by
  cases text with
  | nil => rfl
  | cons first rest =>
    obtain ⟨-, -, -, noMinus, noPlus⟩ := numeral_of_isDigit (digits first (by simp))
    unfold takeSign
    split
    · rename_i equal
      exact absurd (List.cons.inj equal).1 noMinus
    · rename_i equal
      exact absurd (List.cons.inj equal).1 noPlus
    · rfl

/-- A minus or nothing, and digits that are not too many, are read as the number with the sign. -/
theorem readInteger?_of_isDigit (negative : Bool)
    (digits : ∀ character ∈ text, character.isDigit = true) (nonempty : text ≠ [])
    (bounded : text.length ≤ maxIntegerDigits) :
    readInteger? ((if negative then ['-'] else []) ++ text) =
      some (signedInt negative (digitsValue (text.filterMap digitValue?))) := by
  have minus : IsPlainNumeral '-' := by
    unfold IsPlainNumeral
    decide
  have plain : ∀ character ∈ (if negative then ['-'] else []) ++ text,
      IsPlainNumeral character := by
    have plainDigits := fun character member => isPlainNumeral_of_isDigit (digits character member)
    cases negative with
    | true => exact List.forall_mem_cons.mpr ⟨minus, plainDigits⟩
    | false => exact plainDigits
  have sign : takeSign ((if negative then ['-'] else []) ++ text) = (negative, text) := by
    cases negative with
    | true => rfl
    | false => exact takeSign_of_isDigit digits
  have known : ∀ character ∈ text, isDigit character = true := by
    intro character member
    simp [isDigit, digitValue?_of_isDigit (digits character member)]
  have leading : leadingDigits text = text.filterMap digitValue? := by
    rw [leadingDigits, List.takeWhile_eq_self_iff.mpr known]
  have nothing : afterDigits text = [] := List.dropWhile_eq_nil_iff.mpr known
  have count : (text.filterMap digitValue?).length = text.length := by
    rw [filterMap_digitValue? digits, List.length_map]
  have some : (text.filterMap digitValue?).isEmpty = false := by
    rw [filterMap_digitValue? digits]
    simpa using nonempty
  have few : ¬maxIntegerDigits < text.length := Nat.not_lt.mpr bounded
  simp only [readInteger?, plainNumeral?_of_plain plain, Option.bind_eq_bind, Option.bind_some, sign,
    leading, nothing, count, some]
  simp [few]

/-- The text of an integer is read as the integer if it does not have too many digits. -/
theorem readInteger?_intText (bounded : isTooLong number = false) :
    readInteger? (intText number) = some number := by
  simp only [isTooLong, decide_eq_false_iff_not, Nat.not_lt] at bounded
  cases number with
  | ofNat magnitude =>
    have read := readInteger?_of_isDigit false (fun _ => isDigit_of_mem_natText) natText_ne_nil bounded
    rwa [digitsValue_natText] at read
  | negSucc below =>
    have read := readInteger?_of_isDigit true (fun _ => isDigit_of_mem_natText) natText_ne_nil bounded
    rwa [digitsValue_natText] at read

end Integer

end RouteCatalog
