import RouteCatalog.Handler.Declaration
import RouteCatalog.Proofs.Spacing

/-!
# Finding written declarations

A search for a declaration skips whatever cannot begin one (`firstMatch_append`) and reads words
that are written with blanks between them (`afterWords?_spaced`). What was read of a text is a
beginning of it that is read in the same way before every other text (`afterWords?_eq_some`).
-/

namespace RouteCatalog

section Search

variable {α : Type} {reader : Text → Option α}

/-- The search is over where the reader has an answer. -/
theorem firstMatch_of_reader {text : Text} {found : α} (read : reader text = some found) :
    Text.firstMatch reader text = some found := by
  cases text with
  | nil => simpa [Text.firstMatch] using read
  | cons character rest => simp [Text.firstMatch, read]

/-- The search passes over a text if the reader has no answer anywhere in it. -/
theorem firstMatch_append {front back : Text}
    (silent : ∀ ending, ending ≠ [] → ending <:+ front → reader (ending ++ back) = none) :
    Text.firstMatch reader (front ++ back) = Text.firstMatch reader back := by
  induction front with
  | nil => rfl
  | cons character rest inductionHypothesis =>
    have here := silent (character :: rest) (by simp) (List.suffix_refl _)
    have further := inductionHypothesis fun ending nonempty suffix =>
      silent ending nonempty (suffix.trans (List.suffix_cons character rest))
    rw [List.cons_append] at here
    simp [Text.firstMatch, here, further]

/-- A search without an answer had none at any place. -/
theorem reader_eq_none_of_firstMatch {text ending : Text}
    (silent : Text.firstMatch reader text = none) (suffix : ending <:+ text) :
    reader ending = none := by
  induction text with
  | nil =>
    rw [List.suffix_nil.mp suffix]
    simpa [Text.firstMatch] using silent
  | cons character rest inductionHypothesis =>
    simp only [Text.firstMatch] at silent
    cases read : reader (character :: rest) with
    | some found => simp [read] at silent
    | none =>
      rw [read] at silent
      rcases List.suffix_cons_iff.mp suffix with rfl | inner
      · exact read
      · exact inductionHypothesis silent inner

/-- The reader has its first answer of the text behind `front`. -/
def IsFirstMatch (reader : Text → Option α) (text front : Text) (found : α) : Prop :=
  ∃ rest, text = front ++ rest ∧ reader rest = some found ∧
    ∀ earlier later, text = earlier ++ later → earlier.length < front.length → reader later = none

/-- A search finds the first answer. -/
theorem firstMatch_eq_some_iff {text : Text} {found : α} :
    Text.firstMatch reader text = some found ↔ ∃ front, IsFirstMatch reader text front found := by
  constructor
  · intro search
    induction text with
    | nil => exact ⟨[], [], rfl, by simpa [Text.firstMatch] using search, by simp⟩
    | cons character text inductionHypothesis =>
      simp only [Text.firstMatch] at search
      cases here : reader (character :: text) with
      | some answer =>
        rw [here] at search
        cases search
        exact ⟨[], _, rfl, here, by simp⟩
      | none =>
        rw [here] at search
        obtain ⟨front, rest, rfl, read, silent⟩ := inductionHypothesis search
        refine ⟨character :: front, rest, rfl, read, fun earlier later same shorter => ?_⟩
        cases earlier with
        | nil => exact (congrArg reader same).symm.trans here
        | cons _ earlier => exact silent earlier later (List.cons.inj same).2 (by simpa using shorter)
  · rintro ⟨front, rest, rfl, read, silent⟩
    rw [firstMatch_append fun ending nonempty suffix => ?_, firstMatch_of_reader read]
    obtain ⟨earlier, rfl⟩ := suffix
    exact silent earlier (ending ++ rest) (List.append_assoc ..)
      (by simpa using List.length_pos_of_ne_nil nonempty)

end Search

/-- A word: characters of words only, and at least one. -/
def IsWordText (word : Text) : Prop :=
  word ≠ [] ∧ word.all isWord = true

instance (word : Text) : Decidable (IsWordText word) :=
  inferInstanceAs (Decidable (_ ∧ _))

namespace IsWordText

variable {word text : Text}

/-- The first character of a word. -/
theorem exists_cons (isWordText : IsWordText word) :
    ∃ first rest, word = first :: rest ∧ isWord first = true ∧ isBlank first = false := by
  obtain ⟨nonempty, all⟩ := isWordText
  obtain ⟨first, rest, rfl⟩ := List.exists_cons_of_ne_nil nonempty
  simp only [List.all_cons, Bool.and_eq_true] at all
  refine ⟨first, rest, rfl, all.1, Bool.eq_false_iff.mpr fun blank => ?_⟩
  simp [isWord_of_isBlank blank] at all

/-- A word holds no other characters. -/
theorem not_mem {mark : Char} (isWordText : IsWordText word) (other : isWord mark = false) :
    mark ∉ word := by
  intro member
  simp [List.all_eq_true.mp isWordText.2 mark member] at other

/-- A word begins with other than a blank. -/
theorem begins (isWordText : IsWordText word) :
    ∃ first rest, word = first :: rest ∧ isBlank first = false := by
  obtain ⟨first, rest, same, -, mark⟩ := isWordText.exists_cons
  exact ⟨first, rest, same, mark⟩

/-- The last character of a word belongs to words. -/
theorem getLast?_any (isWordText : IsWordText word) : word.getLast?.any isWord = true := by
  obtain ⟨nonempty, all⟩ := isWordText
  rw [List.getLast?_eq_some_getLast nonempty]
  exact List.all_eq_true.mp all _ (List.getLast_mem nonempty)

/-- A word is read after blanks. -/
theorem trimStart_append (isWordText : IsWordText word) :
    (word ++ text).trimStart = word ++ text := by
  obtain ⟨first, rest, rfl, _, mark⟩ := isWordText.exists_cons
  exact Text.trimStart_cons_of_not_blank mark

end IsWordText

/-- What follows blanks: there is one blank at least, and none is left. -/
theorem afterBlanks?_eq_some_iff {text following : Text} :
    afterBlanks? text = some following ↔ ∃ gap : Text, gap ≠ [] ∧ gap.isBlankText = true ∧
      following.trimStart = following ∧ text = gap ++ following := by
  constructor
  · intro read
    cases text with
    | nil => simp [afterBlanks?] at read
    | cons character rest =>
      simp only [afterBlanks?] at read
      split at read
      · rename_i blank
        cases read
        refine ⟨character :: rest.takeWhile isBlank, by simp, ?_, ?_, ?_⟩
        · simp [Text.isBlankText, blank, List.all_takeWhile]
        · exact Text.trimStart_trimStart rest
        · simp [Text.trimStart, List.takeWhile_append_dropWhile]
      · cases read
  · rintro ⟨gap, nonempty, blank, start, rfl⟩
    obtain ⟨character, rest, rfl⟩ := List.exists_cons_of_ne_nil nonempty
    simp only [Text.isBlankText, List.all_cons, Bool.and_eq_true] at blank
    rw [List.cons_append, afterBlanks?, if_pos blank.1,
      Text.trimStart_append_of_blank blank.2, start]

/-- The declaration of a constant has blanks between its three words. -/
theorem exists_of_afterConstant? {name text following : Text}
    (read : afterConstant? name text = some following) : ∃ first second : Text,
      first ≠ [] ∧ first.isBlankText = true ∧ second ≠ [] ∧ second.isBlankText = true ∧
        text = "export".toList ++ first ++ "const".toList ++ second ++ name ++ following := by
  simp only [afterConstant?, afterWords?, Option.bind_eq_bind, Option.bind_eq_some_iff,
    Text.after?_eq_some_iff, afterBlanks?_eq_some_iff] at read
  obtain ⟨_, rfl, _, ⟨first, nonempty, blank, -, rfl⟩, _, rfl, _, ⟨second, nonempty', blank', -, rfl⟩,
    rfl⟩ := read
  exact ⟨first, second, nonempty, blank, nonempty', blank', by simp only [List.append_assoc]⟩

/-- Words with blanks between them are read, and the other tokens follow. -/
theorem afterWords?_spaced {words tokens : List Text} {text : Text} (nonempty : words ≠ [])
    (all : ∀ word ∈ words, IsWordText word) (spaced : Spaced (words ++ tokens) text) :
    ∃ following, afterWords? words text.trimStart = some following ∧ Spaced tokens following := by
  induction words generalizing text with
  | nil => exact absurd rfl nonempty
  | cons word words inductionHypothesis =>
    cases spaced with
    | @token gap _ rest _ blank apart spaced =>
      have isWordText := all word (by simp)
      have start : (gap ++ word ++ rest).trimStart = word ++ rest := by
        rw [List.append_assoc, Text.trimStart_append_of_blank blank, isWordText.trimStart_append]
      have read : Text.after? word (word ++ rest) = some rest := Text.after?_eq_some_iff.mpr rfl
      rw [start]
      cases words with
      | nil => exact ⟨rest, read, spaced⟩
      | cons next words =>
        obtain ⟨following, found, spacedRest⟩ := inductionHypothesis (by simp)
          (fun other member => all other (List.mem_cons_of_mem _ member)) spaced
        -- The two words do not run together, so there is a blank between them.
        have blanks : afterBlanks? rest = some rest.trimStart := by
          cases spaced with
          | @token between _ after _ blankBetween _ _ =>
            have isNext := all next (by simp)
            rw [List.append_assoc, Text.trimStart_append_of_blank blankBetween,
              isNext.trimStart_append]
            refine afterBlanks?_eq_some_iff.mpr ⟨between, ?_, blankBetween,
              isNext.trimStart_append, rfl⟩
            rintro rfl
            obtain ⟨first, tail, same, wordFirst, _⟩ := isNext.exists_cons
            simp [runsTogether, isWordText.getLast?_any, same, wordFirst] at apart
        refine ⟨following, ?_, spacedRest⟩
        simp [afterWords?, read, blanks, found]

/-- A search for what does not begin with a blank passes over leading blanks. -/
theorem firstMatch_trimStart {α : Type} {reader : Text → Option α}
    (silent : ∀ character rest, isBlank character = true → reader (character :: rest) = none)
    (text : Text) : Text.firstMatch reader text = Text.firstMatch reader text.trimStart := by
  induction text with
  | nil => rfl
  | cons character rest inductionHypothesis =>
    by_cases blank : isBlank character = true
    · have start : Text.trimStart (character :: rest) = Text.trimStart rest := by
        simp [Text.trimStart, blank]
      rw [start, ← inductionHypothesis]
      simp [Text.firstMatch, silent character rest blank]
    · rw [Text.trimStart_cons_of_not_blank (by simpa using blank)]

/-- Words are not read where the text begins with a blank. -/
theorem afterWords?_of_blank {words : List Text} {character : Char} {rest : Text}
    (nonempty : words ≠ []) (all : ∀ word ∈ words, IsWordText word)
    (blank : isBlank character = true) : afterWords? words (character :: rest) = none := by
  obtain ⟨word, words, rfl⟩ := List.exists_cons_of_ne_nil nonempty
  obtain ⟨first, tail, same, _, mark⟩ := (all word (by simp)).exists_cons
  have different : first ≠ character := by
    rintro rfl
    simp [blank] at mark
  have unread : Text.after? word (character :: rest) = none := by
    simp [same, Text.after?, different]
  cases words <;> simp [afterWords?, unread]

/-- What was read of a text begins like its first word, holds only blanks and the characters of the
words, and is read in the same way before every other text. -/
theorem afterWords?_eq_some {words : List Text} {text following : Text} (nonempty : words ≠ [])
    (all : ∀ word ∈ words, IsWordText word) (read : afterWords? words text = some following) :
    ∃ lead, text = lead ++ following ∧
      (∀ character ∈ lead, isBlank character = true ∨ isWord character = true) ∧
      (∃ first rest, lead = first :: rest ∧ isBlank first = false) ∧
      ∀ other, afterWords? words (lead ++ other) = some other := by
  induction words generalizing text with
  | nil => exact absurd rfl nonempty
  | cons word words inductionHypothesis =>
    have isWordText := all word (by simp)
    obtain ⟨first, tail, same, _, mark⟩ := isWordText.exists_cons
    have ofWord : ∀ character ∈ word, isBlank character = true ∨ isWord character = true :=
      fun character member => .inr (List.all_eq_true.mp isWordText.2 character member)
    have again : ∀ other, Text.after? word (word ++ other) = some other :=
      fun other => Text.after?_eq_some_iff.mpr rfl
    cases words with
    | nil =>
      exact ⟨word, Text.after?_eq_some_iff.mp read, ofWord, ⟨first, tail, same, mark⟩, again⟩
    | cons next words =>
      simp only [afterWords?, Option.bind_eq_bind, Option.bind_eq_some_iff] at read
      obtain ⟨middle, readWord, behind, readBlanks, readRest⟩ := read
      obtain ⟨lead, rfl, characters, ⟨head, rest, rfl, headMark⟩, leads⟩ :=
        inductionHypothesis (by simp)
          (fun other member => all other (List.mem_cons_of_mem _ member)) readRest
      obtain ⟨gap, gapNonempty, blank, _, rfl⟩ := afterBlanks?_eq_some_iff.mp readBlanks
      refine ⟨word ++ gap ++ head :: rest, ?_, ?_, ⟨first, tail ++ gap ++ head :: rest, ?_, mark⟩, ?_⟩
      · rw [Text.after?_eq_some_iff.mp readWord]
        simp
      · intro character member
        rcases List.mem_append.mp member with front | back
        · rcases List.mem_append.mp front with inWord | inGap
          · exact ofWord character inWord
          · exact .inl (List.all_eq_true.mp blank character inGap)
        · exact characters character back
      · simp [same]
      · intro other
        have blanks : afterBlanks? (gap ++ (head :: rest ++ other)) = some (head :: rest ++ other) :=
          afterBlanks?_eq_some_iff.mpr
            ⟨gap, gapNonempty, blank, Text.trimStart_cons_of_not_blank headMark, rfl⟩
        have read := again (gap ++ (head :: rest ++ other))
        simp only [List.append_assoc] at read ⊢
        rw [afterWords?, read]
        simp only [Option.bind_eq_bind, Option.bind_some, blanks, leads]

end RouteCatalog
