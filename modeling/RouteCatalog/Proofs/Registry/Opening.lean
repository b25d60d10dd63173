import RouteCatalog.Proofs.Declaration

/-!
# Where an interface opens

The opening of an interface is three words and a brace, so it never crosses any other character:
`atInterfaceBody?_of_fence`. `Unopened` tokens hold no opening themselves and make none where they
meet (`Spaced.unopened`). A search for an interface passes over them, and over the opening of an
interface of another name (`firstMatch_beyond`).
-/

namespace RouteCatalog

/-- May the character stand neither in the words of an opening, nor between them, nor at its end? -/
def isFence (character : Char) : Bool :=
  !isBlank character && !isWord character && character != '{'

/-- The words that open an interface. -/
def interfaceWords (name : Text) : List Text :=
  ["export".toList, "interface".toList, name]

section Opening

variable {name front back text following : Text}

theorem interfaceWords_ne_nil : interfaceWords name ≠ [] := by
  simp [interfaceWords]

theorem isWordText_of_mem_interfaceWords (isWordText : IsWordText name) :
    ∀ word ∈ interfaceWords name, IsWordText word := by
  have fixed : IsWordText "export".toList ∧ IsWordText "interface".toList := by decide
  simpa [interfaceWords] using ⟨fixed.1, fixed.2, isWordText⟩

/-- An interface is opened by its words, blanks if there are any, and a brace. -/
theorem atInterfaceBody?_eq_some_iff : atInterfaceBody? name text = some following ↔
    ∃ opened rest, afterWords? (interfaceWords name) text = some opened ∧
      opened.trimStart = '{' :: rest ∧ following = '{' :: rest := by
  simp only [atInterfaceBody?, Option.bind_eq_bind, Option.bind_eq_some_iff, interfaceWords]
  constructor
  · rintro ⟨opened, words, brace⟩
    split at brace
    · rename_i rest start
      cases brace
      exact ⟨opened, rest, words, start, rfl⟩
    · cases brace
  · rintro ⟨opened, rest, words, start, rfl⟩
    exact ⟨opened, words, by simp only [start]⟩

/-- No interface opens at a blank. -/
theorem atInterfaceBody?_of_blank {character : Char} (isWordText : IsWordText name)
    (blank : isBlank character = true) : atInterfaceBody? name (character :: text) = none := by
  have unread : afterWords? (interfaceWords name) (character :: text) = none :=
    afterWords?_of_blank interfaceWords_ne_nil (isWordText_of_mem_interfaceWords isWordText) blank
  rw [interfaceWords] at unread
  rw [atInterfaceBody?, unread]
  rfl

/-- An interface opens with the first characters of a word. -/
theorem exists_of_atInterfaceBody? (read : atInterfaceBody? name text = some following) :
    ∃ rest, text = 'e' :: 'x' :: rest := by
  obtain ⟨opened, rest, words, -, -⟩ := atInterfaceBody?_eq_some_iff.mp read
  simp only [interfaceWords, afterWords?, Option.bind_eq_bind, Option.bind_eq_some_iff] at words
  obtain ⟨middle, first, -⟩ := words
  exact ⟨_, Text.after?_eq_some_iff.mp first⟩

/-- Blanks and a mark do not begin a text in which a brace comes before the mark. -/
theorem ne_append_brace {gap missing rest : Text} {mark : Char} (blank : gap.isBlankText = true)
    (noBrace : mark ≠ '{') (absent : mark ∉ missing) :
    gap ++ mark :: back ≠ missing ++ '{' :: rest := by
  intro equal
  rcases List.append_eq_append_iff.mp equal with ⟨tail, rfl, behind⟩ | ⟨tail, rfl, behind⟩
  · cases tail with
    | nil => exact noBrace (List.cons.inj behind).1
    | cons first others => simp_all
  · cases tail with
    | nil => exact noBrace (List.cons.inj behind).1.symm
    | cons first others =>
      rw [List.cons_append, List.cons.injEq] at behind
      obtain ⟨rfl, -⟩ := behind
      exact absurd (List.all_eq_true.mp blank '{' (by simp)) (by decide)

/-- The opening of an interface that stands before a fence, blanks before the fence apart, is read
in the same way without what follows. -/
theorem atInterfaceBody?_of_fence {gap : Text} {mark : Char} (isWordText : IsWordText name)
    (blank : gap.isBlankText = true) (fence : isFence mark = true)
    (read : atInterfaceBody? name (front ++ gap ++ mark :: back) = some following) :
    ∃ alone, atInterfaceBody? name front = some alone := by
  simp only [isFence, Bool.and_eq_true, Bool.not_eq_true', bne_iff_ne] at fence
  obtain ⟨opened, rest, words, start, -⟩ := atInterfaceBody?_eq_some_iff.mp read
  obtain ⟨lead, same, ofLead, -, again⟩ := afterWords?_eq_some interfaceWords_ne_nil
    (isWordText_of_mem_interfaceWords isWordText) words
  have blanks : Text.isBlankText (opened.takeWhile isBlank) = true := List.all_takeWhile
  have whole : opened = opened.takeWhile isBlank ++ '{' :: rest := by
    rw [← start, Text.trimStart, List.takeWhile_append_dropWhile]
  generalize opened.takeWhile isBlank = between at blanks whole
  subst whole
  -- What was read up to the brace cannot hold the fence.
  have unfenced : mark ∉ lead ++ between := by
    intro member
    rcases List.mem_append.mp member with inLead | inBetween
    · rcases ofLead mark inLead with isBlank | isWord
      · simp [isBlank] at fence
      · simp [isWord] at fence
    · simp [List.all_eq_true.mp blanks mark inBetween] at fence
  have split : front ++ (gap ++ mark :: back) = (lead ++ between) ++ '{' :: rest := by
    simpa using same
  rcases List.append_eq_append_iff.mp split with ⟨missing, longer, other⟩ | ⟨tail, shorter, other⟩
  · rw [longer, List.mem_append, not_or] at unfenced
    exact absurd other (ne_append_brace blank fence.2 unfenced.2)
  · cases tail with
    | nil =>
      have apart : gap ++ mark :: back ≠ [] ++ '{' :: rest :=
        ne_append_brace blank fence.2 (by simp)
      exact absurd other.symm apart
    | cons first tail =>
      rw [List.cons_append, List.cons.injEq] at other
      obtain ⟨rfl, -⟩ := other
      refine ⟨'{' :: tail, atInterfaceBody?_eq_some_iff.mpr ⟨between ++ '{' :: tail, tail, ?_, ?_, rfl⟩⟩
      · rw [shorter, List.append_assoc, again]
      · rw [Text.trimStart_append_of_blank blanks, Text.trimStart_cons_of_not_blank (by decide)]

end Opening

/-- Tokens in which no interface of the name opens: each has no character of the first word that
words between blanks could take for it, or holds no opening itself and stands before a fence. -/
inductive Unopened (name : Text) : List Text → Prop where
  | nil : Unopened name []
  | quiet {token : Text} {tokens : List Text} (absent : 'x' ∉ token)
      (rest : Unopened name tokens) : Unopened name (token :: tokens)
  | fenced {token : Text} {mark : Char} {tokens : List Text}
      (silent : Text.firstMatch (atInterfaceBody? name) token = none)
      (fence : isFence mark = true) (rest : Unopened name tokens) :
      Unopened name (token :: [mark] :: tokens)

namespace Unopened

variable {name : Text}

/-- Tokens without an opening in sequence have none. -/
theorem append {front back : List Text} (first : Unopened name front)
    (second : Unopened name back) : Unopened name (front ++ back) := by
  induction first with
  | nil => exact second
  | quiet absent _ inductionHypothesis => exact .quiet absent inductionHypothesis
  | fenced silent fence _ inductionHypothesis => exact .fenced silent fence inductionHypothesis

theorem flatMap {α : Type} {items : List α} {tokensOf : α → List Text}
    (each : ∀ item ∈ items, Unopened name (tokensOf item)) :
    Unopened name (items.flatMap tokensOf) := by
  induction items with
  | nil => exact .nil
  | cons item rest inductionHypothesis =>
    rw [List.flatMap_cons]
    exact (each item (by simp)).append
      (inductionHypothesis fun other member => each other (List.mem_cons_of_mem _ member))

end Unopened

section Search

variable {name text : Text} {tokens : List Text}

/-- A search for an interface passes over blanks. -/
theorem firstMatch_behind_blanks {gap : Text} (isWordText : IsWordText name)
    (blank : gap.isBlankText = true) :
    Text.firstMatch (atInterfaceBody? name) (gap ++ text) =
      Text.firstMatch (atInterfaceBody? name) text := by
  have silent : ∀ character rest, isBlank character = true →
      atInterfaceBody? name (character :: rest) = none :=
    fun _ _ => atInterfaceBody?_of_blank isWordText
  rw [firstMatch_trimStart silent (gap ++ text), Text.trimStart_append_of_blank blank,
    ← firstMatch_trimStart silent]

/-- A search for an interface passes over a text without an opening that stands before a fence. -/
theorem firstMatch_behind_fence {front gap back : Text} {mark : Char}
    (isWordText : IsWordText name)
    (silent : Text.firstMatch (atInterfaceBody? name) front = none)
    (blank : gap.isBlankText = true) (fence : isFence mark = true) :
    Text.firstMatch (atInterfaceBody? name) (front ++ (gap ++ mark :: back)) =
      Text.firstMatch (atInterfaceBody? name) back := by
  have before : Text.firstMatch (atInterfaceBody? name) (front ++ (gap ++ mark :: back)) =
      Text.firstMatch (atInterfaceBody? name) (gap ++ mark :: back) := by
    refine firstMatch_append fun ending nonempty suffix => ?_
    by_contra read
    obtain ⟨found, read⟩ := Option.ne_none_iff_exists'.mp read
    rw [← List.append_assoc] at read
    obtain ⟨alone, opened⟩ := atInterfaceBody?_of_fence isWordText blank fence read
    rw [reader_eq_none_of_firstMatch silent suffix] at opened
    cases opened
  have atMark : atInterfaceBody? name (mark :: back) = none := by
    by_contra read
    obtain ⟨found, read⟩ := Option.ne_none_iff_exists'.mp read
    have readBehindNothing : atInterfaceBody? name ([] ++ [] ++ mark :: back) = some found := read
    obtain ⟨alone, opened⟩ := atInterfaceBody?_of_fence isWordText rfl fence readBehindNothing
    cases opened
  rw [before, firstMatch_behind_blanks isWordText blank]
  simp [Text.firstMatch, atMark]

/-- A search for an interface passes over a text without the second character of its first word if
nothing that would run together with the text follows. -/
theorem firstMatch_behind_quiet {token : Text} (absent : 'x' ∉ token)
    (apart : runsTogether token text = false) :
    Text.firstMatch (atInterfaceBody? name) (token ++ text) =
      Text.firstMatch (atInterfaceBody? name) text := by
  refine firstMatch_append fun ending nonempty suffix => ?_
  by_contra read
  obtain ⟨found, read⟩ := Option.ne_none_iff_exists'.mp read
  obtain ⟨rest, opening⟩ := exists_of_atInterfaceBody? read
  cases ending with
  | nil => exact nonempty rfl
  | cons first ending =>
    cases ending with
    | nil =>
      -- The token ends with the first character of the word and the text goes on with the second.
      obtain ⟨rfl, rfl⟩ : first = 'e' ∧ text = 'x' :: rest := by simpa using opening
      obtain ⟨front, rfl⟩ := suffix
      have word : isWord 'e' = true ∧ isWord 'x' = true := by decide
      simp [runsTogether, word] at apart
    | cons second ending =>
      obtain ⟨-, rfl, -⟩ : first = 'e' ∧ second = 'x' ∧ ending ++ text = rest := by
        simpa using opening
      exact absent (suffix.subset (by simp))

/-- No interface opens in a text of tokens without an opening. -/
theorem Spaced.unopened (isWordText : IsWordText name) (spaced : Spaced tokens text)
    (unopened : Unopened name tokens) : Text.firstMatch (atInterfaceBody? name) text = none := by
  induction unopened generalizing text with
  | nil =>
    cases spaced with
    | done blank =>
      rw [← List.append_nil text, firstMatch_behind_blanks isWordText blank]
      rfl
  | quiet absent _ inductionHypothesis =>
    cases spaced with
    | token blank apart rest =>
      rw [List.append_assoc, firstMatch_behind_blanks isWordText blank,
        firstMatch_behind_quiet absent apart]
      exact inductionHypothesis rest
  | fenced silent fence _ inductionHypothesis =>
    cases spaced with
    | token blank _ rest =>
      cases rest with
      | @token between _ text _ blankBetween _ rest =>
        rw [List.append_assoc, firstMatch_behind_blanks isWordText blank]
        simp only [List.append_assoc, List.singleton_append]
        rw [firstMatch_behind_fence isWordText silent blankBetween fence]
        exact inductionHypothesis rest

/-- A text that begins like an interface of one name opens none of another name. -/
theorem atInterfaceBody?_of_other {other : Text} {following : Text}
    (different : other.head? ≠ name.head?) (isWordText : IsWordText name)
    (isOther : IsWordText other)
    (read : afterWords? (interfaceWords other) text = some following) :
    atInterfaceBody? name text = none := by
  by_contra opens
  obtain ⟨found, opens⟩ := Option.ne_none_iff_exists'.mp opens
  obtain ⟨opened, rest, words, -, -⟩ := atInterfaceBody?_eq_some_iff.mp opens
  simp only [interfaceWords, afterWords?, Option.bind_eq_bind, Option.bind_eq_some_iff]
    at read words
  obtain ⟨behindFirst, first, gap, blanks, behindSecond, second, between, blanksBetween, same⟩ := read
  obtain ⟨behindFirst', first', gap', blanks', behindSecond', second', between', blanksBetween',
    same'⟩ := words
  obtain rfl : behindFirst' = behindFirst := Option.some.inj (first'.symm.trans first)
  obtain rfl : gap' = gap := Option.some.inj (blanks'.symm.trans blanks)
  obtain rfl : behindSecond' = behindSecond := Option.some.inj (second'.symm.trans second)
  obtain rfl : between' = between := Option.some.inj (blanksBetween'.symm.trans blanksBetween)
  have both : other ++ following = name ++ opened :=
    (Text.after?_eq_some_iff.mp same).symm.trans (Text.after?_eq_some_iff.mp same')
  obtain ⟨head, tail, rfl, -, -⟩ := isWordText.exists_cons
  obtain ⟨otherHead, otherTail, rfl, -, -⟩ := isOther.exists_cons
  rw [List.cons_append, List.cons_append, List.cons.injEq] at both
  exact different (by simp [both.1])

/-- Past its first character, the first word of an opening begins none. -/
theorem firstMatch_behind_first :
    Text.firstMatch (atInterfaceBody? name) ("xport".toList ++ text) =
      Text.firstMatch (atInterfaceBody? name) text := by
  refine firstMatch_append fun ending nonempty suffix => ?_
  by_contra opens
  obtain ⟨found, opens⟩ := Option.ne_none_iff_exists'.mp opens
  obtain ⟨tail, opening⟩ := exists_of_atInterfaceBody? opens
  obtain ⟨first, ending, rfl⟩ := List.exists_cons_of_ne_nil nonempty
  rw [List.cons_append, List.cons.injEq] at opening
  have member := suffix.subset (List.mem_cons_self (a := first))
  rw [opening.1] at member
  exact absurd member (by decide)

/-- A search for an interface passes over an interface of another name in which none opens. -/
theorem firstMatch_beyond {other : Text} {inside : List Text}
    (isWordText : IsWordText name) (isOther : IsWordText other)
    (different : other.head? ≠ name.head?) (absent : 'x' ∉ other)
    (unopened : Unopened name inside)
    (spaced : Spaced (interfaceWords other ++ ['{'] :: (inside ++ ['}'] :: tokens)) text) :
    ∃ back, Spaced tokens back ∧ Text.firstMatch (atInterfaceBody? name) text =
      Text.firstMatch (atInterfaceBody? name) back := by
  have words := isWordText_of_mem_interfaceWords isOther
  obtain ⟨behind, read, -⟩ := afterWords?_spaced interfaceWords_ne_nil words spaced
  have here := atInterfaceBody?_of_other different isWordText isOther read
  cases spaced with
  | @token gap _ text _ blank apart rest =>
    rw [List.append_assoc, firstMatch_behind_blanks isWordText blank]
    rw [List.append_assoc, Text.trimStart_append_of_blank blank,
      IsWordText.trimStart_append (words _ (by simp [interfaceWords]))] at here
    have parts : Spaced ((["interface".toList, other, ['{']] ++ inside) ++ ['}'] :: tokens) text :=
      by simpa using rest
    obtain ⟨before, after, rfl, spacedBefore, -, spacedAfter⟩ := parts.split
    have silent := spacedBefore.unopened isWordText
      (.quiet (by decide) (.quiet absent (.quiet (by decide) unopened)))
    have passed : Text.firstMatch (atInterfaceBody? name) (before ++ ([] ++ '}' :: after)) =
        Text.firstMatch (atInterfaceBody? name) after :=
      firstMatch_behind_fence isWordText silent rfl (by decide)
    refine ⟨after, spacedAfter, ?_⟩
    have word : "export".toList = 'e' :: "xport".toList := rfl
    rw [word, List.cons_append] at here ⊢
    rw [Text.firstMatch, here]
    simpa using firstMatch_behind_first.trans (by simpa using passed)

end Search

end RouteCatalog
