import RouteCatalog.Proofs.Spacing
import RouteCatalog.Shape

/-!
# The shape of an entry

Which rows are entries, and what the key and the value of an entry are: `entryOfRow?_eq_some_iff`.
The key is decided by what stands before the colon, so the same beginning gives the same key
whatever the value is. `ReadsKey.closed` says which keys leave the scan where it was; the mark of a
quoted key that ends with a backslash does not.
-/

namespace RouteCatalog

/-- The characters of a bare key are neither quotes, delimiters nor separators of rows. -/
theorem isPlain_of_isBareKeyCharacter {character : Char}
    (bare : isBareKeyCharacter character = true) :
    isPlain character = true ∧ isRowSeparator character = false := by
  have other : character ∉ ['\'', '"', '(', '{', '[', ')', '}', ']', ',', ';'] :=
    not_mem_of_any bare (by decide)
  simp only [List.mem_cons, List.not_mem_nil, or_false, not_or] at other
  simp [isPlain, Quote.ofMark?, Delimiter.isOpener, Delimiter.isCloser, Delimiter.ofOpener?,
    Delimiter.ofCloser?, isRowSeparator, other]

/-- Blanks are not among the characters of a bare key. -/
theorem isBareKeyCharacter_of_isBlank {character : Char} (blank : isBlank character = true) :
    isBareKeyCharacter character = false := by
  have other : character ∉ ['$', '@', '.', '/', '-'] := not_mem_of_any blank (by decide)
  simp only [List.mem_cons, List.not_mem_nil, or_false, not_or] at other
  simp [isBareKeyCharacter, isWord_of_isBlank blank, other]

/-- The characters that end an identifier are none of it. -/
theorem not_mem_of_isIdentifierRest {character : Char}
    (identifier : isIdentifierRest character = true) :
    character ∉ ['\'', '"', '(', '{', '[', ')', '}', ']', ',', ';', ':', '?'] :=
  not_mem_of_any identifier (by decide)

/-- What begins an identifier may go on with one. -/
theorem isIdentifierRest_of_isIdentifierStart {character : Char}
    (identifier : isIdentifierStart character = true) :
    isIdentifierRest character = true := by
  simp only [isIdentifierStart, Bool.or_eq_true, beq_iff_eq] at identifier
  rcases identifier with (letter | rfl) | rfl
  · simp [isIdentifierRest, isWord_of_isAlpha letter]
  · decide
  · decide

/-- Blanks are not among the characters of an identifier. -/
theorem isBlank_of_isIdentifierRest {character : Char}
    (identifier : isIdentifierRest character = true) : isBlank character = false := by
  refine Bool.eq_false_iff.mpr fun blank => ?_
  have noDollar : character ∉ ['$'] := not_mem_of_any blank (by decide)
  simp [isIdentifierRest, isWord_of_isBlank blank] at identifier
  simp [identifier] at noDollar

/-- The token is read as the key: the key between two marks that it does not hold, or bare
characters. -/
inductive ReadsKey : (token key : Text) → Prop where
  | quoted {key : Text} (quote : Quote) (absent : quote.mark ∉ key) :
      ReadsKey (quote.around key) key
  | bare {key : Text} (nonempty : key ≠ []) (bare : key.all isBareKeyCharacter = true) :
      ReadsKey key key

/-- What may stand between a key and its colon: blanks, and a question mark among them. -/
inductive IsColonGap : (gap : Text) → Prop where
  | blank {gap : Text} (blank : gap.isBlankText = true) : IsColonGap gap
  | optional {front back : Text} (blankFront : front.isBlankText = true)
      (blankBack : back.isBlankText = true) : IsColonGap (front ++ '?' :: back)

/-- A text up to its first mark. -/
theorem untilMark?_append {mark : Char} {inside following : Text} (absent : mark ∉ inside) :
    untilMark? mark (inside ++ mark :: following) = some (inside, following) := by
  induction inside with
  | nil => simp [untilMark?]
  | cons character rest inductionHypothesis =>
    simp only [List.mem_cons, not_or] at absent
    simp [untilMark?, Ne.symm absent.1, inductionHypothesis absent.2]

/-- The text up to a mark is the text before the first one. -/
theorem untilMark?_eq_some_iff {mark : Char} {text inside following : Text} :
    untilMark? mark text = some (inside, following) ↔
      text = inside ++ mark :: following ∧ mark ∉ inside := by
  constructor
  · intro found
    induction text generalizing inside with
    | nil => cases found
    | cons character rest inductionHypothesis =>
      simp only [untilMark?] at found
      split at found
      · rename_i marked
        cases found
        exact ⟨by rw [marked, List.nil_append], by simp⟩
      · rename_i other
        obtain ⟨⟨before, after⟩, foundRest, same⟩ := Option.map_eq_some_iff.mp found
        cases same
        obtain ⟨equal, absent⟩ := inductionHypothesis foundRest
        exact ⟨by rw [equal, List.cons_append], by simp [Ne.symm other, absent]⟩
  · rintro ⟨rfl, absent⟩
    exact untilMark?_append absent

/-- Something follows the colon of a row if only blanks stand before it. -/
theorem afterColon?_eq_some_iff {text value : Text} :
    afterColon? text = some value ↔
      ∃ gap : Text, gap.isBlankText = true ∧ text = gap ++ ':' :: value := by
  constructor
  · intro found
    obtain ⟨gap, blank, parts⟩ := text.exists_trimStart
    unfold afterColon? at found
    split at found
    · rename_i rest start
      cases found
      exact ⟨gap, blank, by rw [← start]; exact parts⟩
    · cases found
  · rintro ⟨gap, blank, rfl⟩
    simp [afterColon?, Text.trimStart_append_of_blank blank,
      Text.trimStart_cons_of_not_blank (by decide : isBlank ':' = false)]

/-- A colon is reached exactly over a gap that may stand before it. -/
theorem afterColon?_skipOptionalMark_iff {text value : Text} :
    afterColon? (skipOptionalMark text) = some value ↔
      ∃ gap, IsColonGap gap ∧ text = gap ++ ':' :: value := by
  obtain ⟨front, blankFront, parts⟩ := text.exists_trimStart
  have colon : ∀ rest : Text, Text.trimStart (':' :: rest) = ':' :: rest := fun rest =>
    Text.trimStart_cons_of_not_blank (by decide)
  have question : ∀ rest : Text, Text.trimStart ('?' :: rest) = '?' :: rest := fun rest =>
    Text.trimStart_cons_of_not_blank (by decide)
  constructor
  · intro found
    unfold skipOptionalMark at found
    split at found
    · rename_i rest start
      obtain ⟨back, blankBack, same⟩ := afterColon?_eq_some_iff.mp found
      refine ⟨front ++ '?' :: back, .optional blankFront blankBack, ?_⟩
      rw [parts, start, same]
      simp
    · obtain ⟨back, blankBack, same⟩ := afterColon?_eq_some_iff.mp found
      refine ⟨front ++ back, .blank (by simp [blankFront, blankBack]), ?_⟩
      rw [parts, same, List.append_assoc]
  · rintro ⟨gap, isGap, rfl⟩
    cases isGap with
    | blank blank =>
      simp [skipOptionalMark, Text.trimStart_append_of_blank blank, colon, afterColon?]
    | optional blankFront blankBack =>
      simp [skipOptionalMark, Text.trimStart_append_of_blank blankFront, question, afterColon?,
        Text.trimStart_append_of_blank blankBack, colon]

namespace ReadsKey

variable {token key following : Text}

/-- A token begins with other than a blank. -/
theorem head_not_blank (reads : ReadsKey token key) :
    ∃ first rest, token = first :: rest ∧ isBlank first = false := by
  cases reads with
  | quoted quote absent => exact ⟨_, _, rfl, by cases quote <;> decide⟩
  | bare nonempty bare =>
    obtain ⟨first, rest, rfl⟩ := List.exists_cons_of_ne_nil nonempty
    simp only [List.all_cons, Bool.and_eq_true] at bare
    refine ⟨first, rest, rfl, Bool.eq_false_iff.mpr fun blank => ?_⟩
    simp [isBareKeyCharacter_of_isBlank blank] at bare

/-- A token is closed if its key does not end with a backslash. -/
theorem closed (reads : ReadsKey token key) (unescaped : key.getLast? ≠ some '\\') :
    isClosed token = true := by
  cases reads with
  | quoted quote absent => exact isClosed_around (Quote.encloses_of_not_mem absent unescaped)
  | bare nonempty bare =>
    exact isClosed_of_plain (List.all_eq_true.mpr fun character member =>
      (isPlain_of_isBareKeyCharacter (List.all_eq_true.mp bare character member)).1)

/-- A token is read as its key where no character of a bare key follows. -/
theorem keyOfRow?_append (reads : ReadsKey token key)
    (ends : following.head?.any isBareKeyCharacter = false) :
    keyOfRow? (token ++ following) = some (key, following) := by
  cases reads with
  | quoted quote absent =>
    cases quote <;> simpa [Quote.around, Quote.mark, keyOfRow?] using untilMark?_append absent
  | bare nonempty bare =>
    obtain ⟨first, rest, rfl⟩ := List.exists_cons_of_ne_nil nonempty
    have plain := (isPlain_of_isBareKeyCharacter (List.all_eq_true.mp bare first (by simp))).1
    have noQuote : ∀ quote : Quote, first ≠ quote.mark := by
      rintro quote rfl
      simp [isPlain] at plain
    obtain ⟨taken, left⟩ := Text.span_append (List.all_eq_true.mp bare) ends
    have unquoted : ∀ quote : Quote, ∀ text, first :: rest ++ following = quote.mark :: text → False :=
      fun quote text same => noQuote quote (List.cons.inj same).1
    rw [keyOfRow?.eq_3 _ (unquoted .single) (unquoted .double), taken, left]
    rfl

/-- Every key that is read has a token, and the rest of the row follows it. -/
theorem exists_token {text : Text} (read : keyOfRow? text = some (key, following)) :
    ∃ token, ReadsKey token key ∧ text = token ++ following := by
  have quoted : ∀ (quote : Quote) (rest : Text),
      untilMark? quote.mark rest = some (key, following) →
        ∃ token, ReadsKey token key ∧ quote.mark :: rest = token ++ following := by
    intro quote rest found
    obtain ⟨rfl, absent⟩ := untilMark?_eq_some_iff.mp found
    exact ⟨quote.around key, .quoted quote absent, by simp [Quote.around]⟩
  unfold keyOfRow? at read
  split at read
  · exact quoted .single _ read
  · exact quoted .double _ read
  · dsimp only at read
    split at read
    · cases read
    · rename_i nonempty
      cases read
      exact ⟨_, .bare (by simpa using nonempty) List.all_takeWhile,
        List.takeWhile_append_dropWhile.symm⟩

end ReadsKey

/-- A row is an entry exactly if it is a key, a gap, a colon and the value, after blanks. -/
theorem entryOfRow?_eq_some_iff {row key value : Text} :
    entryOfRow? row = some (key, value) ↔
      ∃ front token gap tail : Text, front.isBlankText = true ∧ ReadsKey token key ∧
        IsColonGap gap ∧ row = front ++ (token ++ (gap ++ ':' :: tail)) ∧ value = tail.trim := by
  constructor
  · intro read
    obtain ⟨front, blank, parts⟩ := row.exists_trimStart
    simp only [entryOfRow?, Option.bind_eq_bind, Option.bind_eq_some_iff, Option.pure_def,
      Option.some.injEq, Prod.mk.injEq] at read
    obtain ⟨⟨_, following⟩, readKey, tail, readTail, rfl, rfl⟩ := read
    obtain ⟨token, reads, start⟩ := ReadsKey.exists_token readKey
    obtain ⟨gap, isGap, rfl⟩ := afterColon?_skipOptionalMark_iff.mp readTail
    exact ⟨front, token, gap, tail, blank, reads, isGap, by rw [← start]; exact parts, rfl⟩
  · rintro ⟨front, token, gap, tail, blank, reads, isGap, rfl, rfl⟩
    obtain ⟨first, rest, same, mark⟩ := reads.head_not_blank
    have start : (front ++ (token ++ (gap ++ ':' :: tail))).trimStart =
        token ++ (gap ++ ':' :: tail) := by
      rw [Text.trimStart_append_of_blank blank, same, List.cons_append,
        Text.trimStart_cons_of_not_blank mark]
    have ends : (gap ++ ':' :: tail).head?.any isBareKeyCharacter = false := by
      have apart : ∀ character, isBlank character = true → isBareKeyCharacter character = false :=
        fun _ => isBareKeyCharacter_of_isBlank
      cases isGap with
      | blank blank => exact Text.head?_append_of_blank apart blank rfl
      | optional blankFront blankBack =>
        rw [List.append_assoc]
        exact Text.head?_append_of_blank apart blankFront rfl
    have colon : afterColon? (skipOptionalMark (gap ++ ':' :: tail)) = some tail :=
      afterColon?_skipOptionalMark_iff.mpr ⟨gap, isGap, rfl⟩
    rw [entryOfRow?, start, reads.keyOfRow?_append ends]
    simp only [Option.bind_eq_bind, Option.bind_some, colon, Option.pure_def]

/-- What stands before the value of an entry is closed if the key does not end with a backslash. -/
theorem isClosed_entryOpening {front token key gap lead : Text} (blankFront : front.isBlankText = true)
    (reads : ReadsKey token key) (unescaped : key.getLast? ≠ some '\\') (isGap : IsColonGap gap)
    (blankLead : lead.isBlankText = true) :
    isClosed (front ++ (token ++ (gap ++ ':' :: lead))) = true := by
  have gapClosed : isClosed gap = true := by
    cases isGap with
    | blank blank => exact isClosed_of_blank blank
    | optional blankFront blankBack =>
      exact isClosed_append (isClosed_of_blank blankFront)
        (isClosed_cons (by decide) (isClosed_of_blank blankBack))
  have colon : isClosed (':' :: lead) = true :=
    isClosed_cons (by decide) (isClosed_of_blank blankLead)
  exact isClosed_append (isClosed_of_blank blankFront)
    (isClosed_append (reads.closed unescaped) (isClosed_append gapClosed colon))

end RouteCatalog
