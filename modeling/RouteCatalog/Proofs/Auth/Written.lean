import RouteCatalog.Handler.Auth
import RouteCatalog.Proofs.Entries
import RouteCatalog.Proofs.Number.Digits

/-!
# Written auth literals

How a requirement is written as an exported constant. Every value has one token, which is read as
the value (`readLiteral_token`), holds no comment and is not split. `authTokens` is the source of
the constant without its blanks.
-/

namespace RouteCatalog

/-- A string with the quotes in which it is written. -/
structure WrittenText where
  quote : Quote
  content : Text
  deriving DecidableEq, Repr

/-- A value that a condition may expect, as it is written. -/
inductive WrittenValue where
  | null
  | bool (flag : Bool)
  | int (number : Int)
  | text (written : WrittenText)
  deriving DecidableEq, Repr

/-- A condition with the quotes in which its strings are written. -/
structure WrittenCondition where
  key : WrittenText
  kind : ConditionKind
  expected : WrittenValue
  deriving DecidableEq, Repr

/-- The string in its quotes. -/
def WrittenText.token (written : WrittenText) : Text :=
  written.quote.around written.content

/-- The string holds neither its quote nor a backslash. -/
def WrittenText.IsWritable (written : WrittenText) : Prop :=
  written.quote.mark ∉ written.content ∧ '\\' ∉ written.content

/-- Entries with commas between them. -/
def objectTokens (entries : List (Text × List Text)) : List Text :=
  joinTokens ',' (entries.map fun entry => entry.1 :: [':'] :: entry.2)

/-- A boolean in words. -/
def boolToken (flag : Bool) : Text :=
  if flag then "true".toList else "false".toList

namespace WrittenValue

/-- The value that is written. -/
def value : WrittenValue → Value
  | null => .null
  | bool flag => .bool flag
  | int number => .int number
  | text written => .text written.content

/-- The value as source text. -/
def token : WrittenValue → Text
  | null => "null".toList
  | bool flag => boolToken flag
  | int number => intText number
  | text written => written.token

/-- The value may be written: an integer does not have too many digits, a string is enclosed. -/
def IsWritable : WrittenValue → Prop
  | null | bool _ => True
  | int number => isTooLong number = false
  | text written => written.IsWritable

end WrittenValue

namespace WrittenCondition

/-- The condition that is written. -/
def condition (written : WrittenCondition) : AuthCondition :=
  { key := written.key.content, kind := written.kind, expected := written.expected.value }

/-- The key and the check of a condition. -/
def entries (written : WrittenCondition) : List (Text × List Text) :=
  [("key".toList, [written.key.token]), (written.kind.sourceKey, [written.expected.token])]

/-- The strings and the integer of a condition may be written. -/
def IsWritable (written : WrittenCondition) : Prop :=
  written.key.IsWritable ∧ written.expected.IsWritable

/-- A condition as an object. -/
def tokens (written : WrittenCondition) : List Text :=
  ['{'] :: (objectTokens written.entries ++ [['}']])

end WrittenCondition

/-- Conditions as a list. -/
def conditionsTokens (conditions : List WrittenCondition) : List Text :=
  ['['] :: (joinTokens ',' (conditions.map WrittenCondition.tokens) ++ [[']']])

/-- The login and the conditions of a requirement. -/
def authEntries (login : Bool) (conditions : List WrittenCondition) : List (Text × List Text) :=
  [("login".toList, [boolToken login]), ("additional".toList, conditionsTokens conditions)]

/-- The words and marks before the literal of an exported requirement. -/
def authOpening : List Text :=
  ["export".toList, "const".toList, "auth".toList, [':'], "AuthProps".toList, ['=']]

/-- The exported constant of a requirement without its blanks. -/
def authTokens (login : Bool) (conditions : List WrittenCondition) : List Text :=
  authOpening ++ ['{'] :: (objectTokens (authEntries login conditions) ++ [['}']])

instance WrittenText.decidableIsWritable (written : WrittenText) : Decidable written.IsWritable :=
  inferInstanceAs (Decidable (_ ∧ _))

instance WrittenValue.decidableIsWritable (written : WrittenValue) : Decidable written.IsWritable :=
  match written with
  | .null | .bool _ => isTrue trivial
  | .int number => inferInstanceAs (Decidable (isTooLong number = false))
  | .text written => inferInstanceAs (Decidable written.IsWritable)

instance WrittenCondition.decidableIsWritable (written : WrittenCondition) :
    Decidable written.IsWritable :=
  inferInstanceAs (Decidable (_ ∧ _))

/-- A token of a literal: it is closed, in one piece for every separator of rows, holds no comment
and no blank at its ends. -/
structure IsLiteralToken (token : Text) : Prop where
  closed : isClosed token = true
  whole : rows token = [token]
  commentFree : isCommentFree token = true
  trimmed : token.trim = token

section Values

/-- A string that may be written is enclosed in its quotes. -/
theorem WrittenText.IsWritable.encloses {written : WrittenText} (writable : written.IsWritable) :
    written.quote.encloses written.content = true :=
  Quote.encloses_of_not_mem writable.1 fun last => writable.2 (List.mem_of_getLast? last)

/-- A string in its quotes is trimmed. -/
theorem WrittenText.trim_token (written : WrittenText) : written.token.trim = written.token :=
  Text.trim_of_ends (by cases written.quote <;> decide) (by cases written.quote <;> decide)

/-- A string is a token of a literal. -/
theorem WrittenText.IsWritable.isLiteralToken {written : WrittenText}
    (writable : written.IsWritable) : IsLiteralToken written.token where
  closed := isClosed_around writable.encloses
  whole := whole_around (by cases written.quote <;> decide) writable.encloses
  commentFree := isCommentFree_around writable.encloses
  trimmed := written.trim_token

/-- Characters of a bare key without slashes are a token of a literal. -/
theorem isLiteralToken_of_bare {token : Text} (nonempty : token ≠ [])
    (bare : token.all isBareKeyCharacter = true) (noSlash : '/' ∉ token) :
    IsLiteralToken token where
  closed := (WritesKey.bare nonempty bare).closed
  whole := (WritesKey.bare nonempty bare).whole
  commentFree := isCommentFree_of_closed (WritesKey.bare nonempty bare).closed noSlash
  trimmed := by
    refine Text.trim_of_no_blank fun character member => Bool.eq_false_iff.mpr fun blank => ?_
    simpa [isBareKeyCharacter_of_isBlank blank] using List.all_eq_true.mp bare character member

/-- The characters of the text of an integer. -/
theorem mem_intText {number : Int} {character : Char} (member : character ∈ intText number) :
    character = '-' ∨ character.isDigit = true := by
  cases number with
  | ofNat magnitude => exact .inr (isDigit_of_mem_natText member)
  | negSucc below =>
    rcases List.mem_cons.mp member with minus | inDigits
    · exact .inl minus
    · exact .inr (isDigit_of_mem_natText inDigits)

theorem intText_ne_nil {number : Int} : intText number ≠ [] := by
  cases number with
  | ofNat magnitude => exact natText_ne_nil
  | negSucc below => exact List.cons_ne_nil _ _

/-- ASCII digits belong to words. -/
theorem isWord_of_isDigit {character : Char} (digit : character.isDigit = true) :
    isWord character = true := by
  obtain ⟨-, upper⟩ := toNat_of_isDigit digit
  have ascii : character.toNat < 128 := by omega
  simp [isWord, ascii, Char.isAlphanum, digit]

/-- The text of an integer is a token of a literal. -/
theorem isLiteralToken_intText (number : Int) : IsLiteralToken (intText number) := by
  refine isLiteralToken_of_bare intText_ne_nil (List.all_eq_true.mpr fun character member => ?_) ?_
  · rcases mem_intText member with rfl | digit
    · decide
    · simp [isBareKeyCharacter, isWord_of_isDigit digit]
  · intro member
    rcases mem_intText member with minus | digit
    · exact absurd minus (by decide)
    · exact absurd digit (by decide)

/-- Every value that may be written is written as a token of a literal. -/
theorem WrittenValue.IsWritable.isLiteralToken {written : WrittenValue}
    (writable : written.IsWritable) : IsLiteralToken written.token := by
  have words : ∀ word ∈ ["null".toList, "true".toList, "false".toList], IsLiteralToken word := by
    have bare : ∀ word ∈ ["null".toList, "true".toList, "false".toList],
        word ≠ [] ∧ word.all isBareKeyCharacter = true ∧ '/' ∉ word := by decide
    exact fun word member => isLiteralToken_of_bare (bare word member).1 (bare word member).2.1
      (bare word member).2.2
  cases written with
  | null => exact words _ (by simp [token])
  | bool flag => exact words _ (by cases flag <;> simp [token, boolToken])
  | int number => exact isLiteralToken_intText number
  | text written => exact WrittenText.IsWritable.isLiteralToken writable

end Values

section Reading

/-- The words that a literal may be. -/
def literalWords : List Text :=
  ["true".toList, "false".toList, "null".toList]

/-- A trimmed text that is none of the words is read as a string, a number or itself. -/
theorem readLiteral_of_not_word {text : Text} (trimmed : text.trim = text)
    (noWord : text ∉ literalWords) :
    readLiteral text = match Text.unwrapMarks? ['\'', '"', '\x60'] text with
      | some inside => .text inside
      | none =>
        match readInteger? text with
        | some number => .int number
        | none =>
          match readBinary64? text with
          | some number => .float number
          | none => .text text := by
  simp only [literalWords, List.mem_cons, List.not_mem_nil, or_false, not_or] at noWord
  simp only [readLiteral, trimmed]
  exact (if_neg noWord.1).trans ((if_neg noWord.2.1).trans (if_neg noWord.2.2))

/-- The text between two equal marks is read as a string. -/
theorem readLiteral_between {mark : Char} (marks : mark ∈ ['\'', '"', '\x60']) (content : Text) :
    readLiteral (mark :: (content ++ [mark])) = .text content := by
  have oneOf : mark = '\'' ∨ mark = '"' ∨ mark = '\x60' := by simpa using marks
  have notBlank : isBlank mark = false := by rcases oneOf with rfl | rfl | rfl <;> decide
  have noWord : mark :: (content ++ [mark]) ∉ literalWords := by
    intro member
    have begins : some mark ∈ literalWords.map List.head? := List.mem_map.mpr ⟨_, member, rfl⟩
    rcases oneOf with rfl | rfl | rfl <;> exact absurd begins (by decide)
  have inside : Text.unwrapMarks? ['\'', '"', '\x60'] (mark :: (content ++ [mark])) = some content :=
    Text.unwrapMarks?_eq_some_iff.mpr ⟨mark, marks, rfl⟩
  rw [readLiteral_of_not_word (Text.trim_of_ends notBlank notBlank) noWord, inside]

/-- The text between two quotes is read as a string. -/
theorem readLiteral_text (written : WrittenText) :
    readLiteral written.token = .text written.content :=
  readLiteral_between (by cases written.quote <;> decide) written.content

/-- The text of an integer is read as the integer. -/
theorem readLiteral_intText {number : Int} (bounded : isTooLong number = false) :
    readLiteral (intText number) = .int number := by
  have characters : ∀ mark, mark ≠ '-' → mark.isDigit = false → mark ∉ intText number := by
    intro mark noMinus noDigit member
    rcases mem_intText member with minus | digit
    · exact noMinus minus
    · simp [digit] at noDigit
  have noWord : intText number ∉ literalWords := by
    intro member
    simp only [literalWords, List.mem_cons, List.not_mem_nil, or_false] at member
    rcases member with same | same | same
    · exact characters 't' (by decide) (by decide) (by rw [same]; decide)
    · exact characters 'f' (by decide) (by decide) (by rw [same]; decide)
    · exact characters 'n' (by decide) (by decide) (by rw [same]; decide)
  have noString : Text.unwrapMarks? ['\'', '"', '\x60'] (intText number) = none := by
    rw [Option.eq_none_iff_forall_ne_some]
    intro inside found
    obtain ⟨mark, member, same⟩ := Text.unwrapMarks?_eq_some_iff.mp found
    have written : mark ∈ intText number := by simp [same]
    simp only [List.mem_cons, List.not_mem_nil, or_false] at member
    rcases member with rfl | rfl | rfl <;>
      exact characters _ (by decide) (by decide) written
  rw [readLiteral_of_not_word (isLiteralToken_intText number).trimmed noWord, noString,
    readInteger?_intText bounded]

/-- Every value is read from its token. -/
theorem readLiteral_token {written : WrittenValue} (writable : written.IsWritable) :
    readLiteral written.token = written.value := by
  cases written with
  | null => decide
  | bool flag => cases flag <;> decide
  | int number => exact readLiteral_intText writable
  | text written => exact readLiteral_text written

/-- What stands between the brackets of a list is read item by item. -/
theorem readConditions?_of_trim {text interior : Text}
    (trimmed : text.trim = '[' :: (interior ++ [']'])) :
    readConditions? text =
      ((splitTopLevel (· == ',') interior).filter fun item => !item.isBlankText).mapM fun item =>
        (unwrapBraces? item).bind fun object => conditionOf? (entriesOf object) := by
  have bracket : (interior ++ [']']).getLast? = some ']' := List.getLast?_concat ..
  rw [readConditions?, trimmed]
  simp only [bracket, if_true, List.dropLast_concat]

/-- A literal with a login and a list of conditions is read as a requirement. -/
theorem readAuthLiteral_of_entries {login : Bool} {interior list : Text}
    {conditions : List AuthCondition}
    (entries : entriesOf interior =
      [("login".toList, boolToken login), ("additional".toList, list)])
    (read : readConditions? list = some conditions) :
    readAuthLiteral ('{' :: (interior ++ ['}'])) =
      { requiresLogin := login, additional := conditions, known := true } := by
  have inside : (('{' :: (interior ++ ['}'])).drop 1).dropLast = interior := by
    rw [List.drop_one, List.tail_cons, List.dropLast_concat]
  have loginFound : lastOf? [("login".toList, boolToken login), ("additional".toList, list)]
      "login".toList = some (boolToken login) := rfl
  have listFound : lastOf? [("login".toList, boolToken login), ("additional".toList, list)]
      "additional".toList = some list := rfl
  simp only [readAuthLiteral, inside, entries, loginFound, listFound, Option.getD_some, read]
  cases login <;> rfl

end Reading

end RouteCatalog
