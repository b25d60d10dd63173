import RouteCatalog.Proofs.Layout.Lexeme
import RouteCatalog.Proofs.Layout.Lines
import RouteCatalog.Proofs.Spacing

/-!
# Texts that are indented by depth

The running depth of a text counts openers and closers of all kinds together, outside literals, and
never falls below zero. `LaidOut` describes, character by character, texts of words with gaps between
them, in which a new line stands as far to the right as the depth before it says, one level less where
it begins with a closer. The lines of such a text are read off: `LaidOut.isIndented`; and there is
nothing to trim in it: `LaidOut.isTrimmed` and `LaidOut.trimLines_eq`.
-/

namespace RouteCatalog

open LexemeReader

/-- The literal that is open, and how many groups are. -/
structure DepthReader where
  literal : Literal := {}
  depth : Nat := 0
  deriving DecidableEq, Repr

namespace DepthReader

/-- Read one character: outside literals an opener adds one, and a closer takes one away if there is
one. -/
def feed (reader : DepthReader) (character : Char) : DepthReader where
  literal := reader.literal.feed character
  depth :=
    if reader.literal.isOpen then reader.depth
    else if Delimiter.isOpener character then reader.depth + 1
    else if Delimiter.isCloser character then reader.depth - 1
    else reader.depth

/-- Read a whole text. -/
def read (reader : DepthReader) (text : Text) : DepthReader :=
  text.foldl feed reader

/-- The reader that has read nothing. -/
def start : DepthReader := {}

theorem read_append (reader : DepthReader) (front back : Text) :
    reader.read (front ++ back) = (reader.read front).read back := by
  simp [read, List.foldl_append]

/-- A blank neither opens nor closes a literal or a group. -/
theorem feed_blank (reader : DepthReader) {character : Char} (blank : isBlank character = true) :
    (reader.feed character).literal.isOpen = reader.literal.isOpen ∧
      (reader.feed character).depth = reader.depth := by
  have plain := isPlain_of_isBlank blank
  simp only [isPlain, Bool.and_eq_true, Bool.not_eq_true'] at plain
  have still : (LexemeReader.feed ⟨reader.literal, .bare⟩ character).literal.isOpen =
      reader.literal.isOpen := isOpen_feed_blank blank
  exact ⟨still, by simp [feed, plain]⟩

/-- Blanks neither open nor close a literal or a group. -/
theorem read_blank (reader : DepthReader) {gap : Text} (blank : gap.isBlankText = true) :
    (reader.read gap).literal.isOpen = reader.literal.isOpen ∧
      (reader.read gap).depth = reader.depth := by
  induction gap generalizing reader with
  | nil => exact ⟨rfl, rfl⟩
  | cons character rest inductionHypothesis =>
    simp only [Text.isBlankText, List.all_cons, Bool.and_eq_true] at blank
    have here := feed_blank reader blank.1
    have later := inductionHypothesis (reader.feed character) blank.2
    exact ⟨later.1.trans here.1, later.2.trans here.2⟩

end DepthReader

/-- How many groups are open behind a text, literals passed over. -/
def runningDepth (text : Text) : Nat :=
  (DepthReader.start.read text).depth

/-- Does a literal go on behind the text? -/
def endsInLiteral (text : Text) : Bool :=
  (DepthReader.start.read text).literal.isOpen

/-- The level of a line that begins with a character behind a text: a closer belongs to the line of
its opener. -/
def lineLevel (before : Text) (first : Char) : Nat :=
  if Delimiter.isCloser first then runningDepth before - 1 else runningDepth before

/-- A line of a text, with what stands before it and behind it. -/
structure IsLine (text front line back : Text) : Prop where
  parts : text = front ++ line ++ back
  noFeed : '\n' ∉ line
  begins : front = [] ∨ front.getLast? = some '\n'
  ends : back = [] ∨ back.head? = some '\n'

/-- The pieces of a text between line feeds are its lines. -/
theorem exists_isLine_of_mem_pieces {text line : Text} (member : line ∈ text.pieces '\n') :
    ∃ front back, IsLine text front line back := by
  obtain ⟨last, noFeed, rfl | ⟨front, rfl⟩⟩ := text.exists_lastPiece '\n'
  · rw [Text.pieces_of_not_mem noFeed, List.mem_singleton] at member
    subst member
    exact ⟨[], [], ⟨by simp, noFeed, .inl rfl, .inl rfl⟩⟩
  · rw [Text.pieces_append, Text.pieces_of_not_mem noFeed, List.mem_append,
      List.mem_singleton] at member
    rcases member with member | rfl
    · obtain ⟨before, behind, isLine⟩ := exists_isLine_of_mem_pieces member
      refine ⟨before, behind ++ '\n' :: last, ⟨?_, isLine.noFeed, isLine.begins, .inr ?_⟩⟩
      · conv => lhs; rw [isLine.parts]
        simp
      · rcases isLine.ends with rfl | ends
        · rfl
        · simp [ends]
    · exact ⟨front ++ ['\n'], [], ⟨by simp, noFeed, .inr (by simp), .inl rfl⟩⟩
termination_by text.length

/-- The line is not blank, has no blanks at its end, and begins with as many spaces as its level says,
directly before a character that is no blank. -/
structure IsIndented (indent : Nat) (front line : Text) : Prop where
  begins : ∃ spaces first rest, line = spaces ++ first :: rest ∧ isBlank first = false ∧
    spaces = List.replicate (indent * lineLevel (front ++ spaces) first) ' '
  ends : ∀ last ∈ line.getLast?, isBlank last = false

/-- A line is what it is without the blanks at its end. -/
theorem IsIndented.trimEnd_eq {indent : Nat} {front line : Text}
    (indented : IsIndented indent front line) :
    line.trimEnd = line := by
  rcases List.eq_nil_or_concat line with rfl | ⟨before, last, rfl⟩
  · rfl
  · rw [List.concat_eq_append] at indented ⊢
    have mark := indented.ends last (by rw [List.getLast?_concat]; rfl)
    simp [Text.trimEnd, mark]

/-- The blanks between a text and the character behind it: none, a space, or the indentation of a new
line. Nothing stands before the first character. -/
inductive IsGap (indent : Nat) (text : Text) (character : Char) : Text → Prop where
  | none : IsGap indent text character []
  | space (word : text ≠ []) : IsGap indent text character [' ']
  | line (word : text ≠ []) : IsGap indent text character
      ('\n' :: List.replicate (indent * lineLevel text character) ' ')

/-- What a layout writes, character by character: inside literals anything but line feeds, and outside
words with gaps between them. -/
inductive LaidOut (indent : Nat) : Text → Prop where
  | empty : LaidOut indent []
  | quoted {text : Text} {character : Char} (laid : LaidOut indent text)
      (inside : endsInLiteral text = true) (noFeed : character ≠ '\n') :
      LaidOut indent (text ++ [character])
  | word {text gap : Text} {character : Char} (laid : LaidOut indent text)
      (outside : endsInLiteral text = false) (mark : isBlank character = false)
      (between : IsGap indent text character gap) :
      LaidOut indent (text ++ gap ++ [character])

section Parts

variable {indent : Nat} {text gap front rest : Text} {character first last : Char}

theorem IsGap.blank (between : IsGap indent text character gap) : gap.isBlankText = true := by
  cases between <;> simp [Text.isBlankText]

/-- A character in a text with one more at its end is that one, or stands in the text. -/
theorem eq_or_exists_of_concat (same : text ++ [last] = front ++ character :: rest) :
    (rest = [] ∧ character = last ∧ text = front) ∨
      ∃ before, rest = before ++ [last] ∧ text = front ++ character :: before := by
  rcases List.eq_nil_or_concat rest with rfl | ⟨before, final, rfl⟩
  · obtain ⟨rfl, marks⟩ := List.append_inj' same rfl
    exact .inl ⟨rfl, (List.cons.inj marks).1.symm, rfl⟩
  · rw [List.concat_eq_append, ← List.cons_append, ← List.append_assoc] at same
    obtain ⟨rfl, marks⟩ := List.append_inj' same rfl
    obtain rfl := (List.cons.inj marks).1
    exact .inr ⟨before, by simp, rfl⟩

/-- A character that is no blank does not stand in the blanks behind a text. -/
theorem exists_of_append_blank (blank : gap.isBlankText = true) (mark : isBlank character = false)
    (same : text ++ gap = front ++ character :: rest) :
    ∃ before, text = front ++ character :: before := by
  induction gap using List.reverseRecOn generalizing rest with
  | nil => exact ⟨rest, by simpa using same⟩
  | append_singleton gap final inductionHypothesis =>
    rw [Text.isBlankText_append, Bool.and_eq_true] at blank
    rw [← List.append_assoc] at same
    obtain ⟨-, rfl, -⟩ | ⟨before, -, inner⟩ := eq_or_exists_of_concat same
    · simp [Text.isBlankText, mark] at blank
    · exact inductionHypothesis blank.1 inner

end Parts

namespace LaidOut

variable {indent : Nat} {text front spaces rest : Text} {first : Char}

/-- What a layout has written does not begin with a blank. -/
theorem head_mark (laid : LaidOut indent text) : ∀ first ∈ text.head?, isBlank first = false := by
  induction laid with
  | empty => simp
  | @quoted text character _ inside _ inductionHypothesis =>
    cases text with
    | nil => cases inside
    | cons first rest => exact inductionHypothesis
  | @word text gap character _ _ mark between inductionHypothesis =>
    cases text with
    | nil => cases between <;> simp_all
    | cons first rest => exact inductionHypothesis

/-- Outside literals, what a layout has written does not end with a blank. -/
theorem last_mark (laid : LaidOut indent text) (outside : endsInLiteral text = false) :
    ∀ last ∈ text.getLast?, isBlank last = false := by
  cases laid with
  | empty => simp
  | @quoted text character _ inside _ =>
    -- Only the mark of the literal closes it.
    have still : isBlank character = true → endsInLiteral (text ++ [character]) = true := by
      intro blank
      rw [endsInLiteral, DepthReader.read_append]
      exact (DepthReader.feed_blank _ blank).1.trans inside
    rw [List.getLast?_concat]
    rintro last ⟨rfl⟩
    exact Bool.eq_false_iff.mpr fun blank => by simp [still blank] at outside
  | word _ _ mark _ =>
    rw [List.getLast?_concat]
    rintro last ⟨rfl⟩
    exact mark

/-- The last line of what a layout has written is not blank. -/
theorem not_blank_lastLine (laid : LaidOut indent text) (nonempty : text ≠ [])
    (parts : text = front ++ spaces) (begins : front = [] ∨ front.getLast? = some '\n') :
    spaces.isBlankText = false := by
  induction laid generalizing spaces with
  | empty => exact absurd rfl nonempty
  | @quoted text character _ inside noFeed inductionHypothesis =>
    rcases List.eq_nil_or_concat spaces with rfl | ⟨before, last, rfl⟩
    · rw [List.append_nil] at parts
      simp [← parts, noFeed] at begins
    · rw [List.concat_eq_append, ← List.append_assoc] at parts
      have word : text ≠ [] := by
        rintro rfl
        cases inside
      have blank := inductionHypothesis word (List.append_inj' parts rfl).1
      simp [blank]
  | @word text gap character _ _ mark _ _ =>
    rcases List.eq_nil_or_concat spaces with rfl | ⟨before, last, rfl⟩
    · rw [List.append_nil] at parts
      have other : character ≠ '\n' := by
        rintro rfl
        simp at mark
      simp [← parts, other] at begins
    · rw [List.concat_eq_append, ← List.append_assoc] at parts
      obtain rfl := (List.cons.inj (List.append_inj' parts rfl).2).1
      simp [Text.isBlankText, mark]

/-- Blanks change nothing about the level of a line. -/
theorem lineLevel_append_of_blank (text : Text) (first : Char) (blank : spaces.isBlankText = true) :
    lineLevel (text ++ spaces) first = lineLevel text first := by
  have same : runningDepth (text ++ spaces) = runningDepth text := by
    rw [runningDepth, DepthReader.read_append]
    exact (DepthReader.read_blank _ blank).2
  rw [lineLevel, lineLevel, same]

/-- Blanks at the beginning of a line are the indentation of its level. -/
theorem spaces_eq (laid : LaidOut indent text) (parts : text = front ++ spaces ++ first :: rest)
    (begins : front = [] ∨ front.getLast? = some '\n') (blank : spaces.isBlankText = true)
    (noFeed : '\n' ∉ spaces) (mark : isBlank first = false) :
    spaces = List.replicate (indent * lineLevel (front ++ spaces) first) ' ' := by
  induction laid generalizing rest with
  | empty => simp at parts
  | @quoted text character laid inside _ inductionHypothesis =>
    obtain ⟨-, -, here⟩ | ⟨before, -, here⟩ := eq_or_exists_of_concat parts
    · -- A character of a literal has more than blanks before it in its line.
      have word : text ≠ [] := by
        rintro rfl
        cases inside
      rw [laid.not_blank_lastLine word here begins] at blank
      cases blank
    · exact inductionHypothesis here
  | @word text gap character laid _ _ between inductionHypothesis =>
    obtain ⟨-, rfl, here⟩ | ⟨before, -, here⟩ := eq_or_exists_of_concat parts
    · -- The character behind the gap is the first of its line: only a new line, or the beginning of
      -- the text, leaves nothing but blanks before it.
      cases between with
      | none =>
        rw [List.append_nil] at here
        by_cases word : text = []
        · obtain ⟨rfl, rfl⟩ := List.append_eq_nil_iff.mp (here.symm.trans word)
          simp [lineLevel, runningDepth, DepthReader.read, DepthReader.start]
        · rw [laid.not_blank_lastLine word here begins] at blank
          cases blank
      | space word =>
        rcases List.eq_nil_or_concat spaces with rfl | ⟨before, last, rfl⟩
        · rw [List.append_nil] at here
          simp [← here] at begins
        · rw [List.concat_eq_append, ← List.append_assoc] at here
          have inner := laid.not_blank_lastLine word (List.append_inj' here rfl).1 begins
          simp [inner] at blank
      | line word =>
        rcases begins with rfl | ends
        · rw [List.nil_append] at here
          exact absurd (here ▸ by simp) noFeed
        · obtain ⟨before, rfl⟩ := List.getLast?_eq_some_iff.mp ends
          rw [List.append_assoc, List.singleton_append] at here
          obtain ⟨rfl, rfl⟩ := Text.eq_of_append_separator (by simp) noFeed here
          have behind : Text.isBlankText ('\n' :: List.replicate
              (indent * lineLevel text first) ' ') = true := (IsGap.line word).blank
          rw [List.append_assoc, List.singleton_append, lineLevel_append_of_blank _ _ behind]
    · -- The line began before the gap.
      obtain ⟨inner, same⟩ := exists_of_append_blank between.blank mark here
      exact inductionHypothesis same

/-- A line feed is written behind a word, not behind blanks. -/
theorem mark_before_feed (laid : LaidOut indent text) (parts : text = front ++ '\n' :: rest) :
    front ≠ [] ∧ ∀ last ∈ front.getLast?, isBlank last = false := by
  induction laid generalizing rest with
  | empty => simp at parts
  | @quoted text character _ _ noFeed inductionHypothesis =>
    obtain ⟨-, rfl, -⟩ | ⟨before, -, here⟩ := eq_or_exists_of_concat parts
    · exact absurd rfl noFeed
    · exact inductionHypothesis here
  | @word text gap character laid outside mark between inductionHypothesis =>
    obtain ⟨-, rfl, -⟩ | ⟨before, -, here⟩ := eq_or_exists_of_concat parts
    · exact absurd mark (by decide)
    · cases between with
      | none => exact inductionHypothesis (by simpa using here)
      | space _ =>
        obtain ⟨-, other, -⟩ | ⟨inner, -, same⟩ := eq_or_exists_of_concat here
        · exact absurd other (by decide)
        · exact inductionHypothesis same
      | line word =>
        -- The line feed is that of the gap, or one of the text before it: indentation has none.
        obtain ⟨longer, rfl, spaces⟩ | ⟨longer, rfl, spaces⟩ := List.append_eq_append_iff.mp here
        · cases longer with
          | nil => exact ⟨by simpa using word, by simpa using laid.last_mark outside⟩
          | cons first others =>
            have member : '\n' ∈ List.replicate (indent * lineLevel text character) ' ' :=
              (List.cons.inj spaces).2 ▸ List.mem_append_right others List.mem_cons_self
            exact absurd (List.eq_of_mem_replicate member) (by decide)
        · cases longer with
          | nil => exact ⟨by simpa using word, by simpa using laid.last_mark outside⟩
          | cons first others =>
            obtain ⟨rfl, -⟩ := List.cons.inj spaces
            exact inductionHypothesis rfl

/-- Every line of what a layout has written is indented by its level. -/
theorem isIndented {line back : Text} (laid : LaidOut indent text)
    (outside : endsInLiteral text = false) (nonempty : text ≠ [])
    (isLine : IsLine text front line back) : IsIndented indent front line := by
  obtain ⟨word, mark⟩ : front ++ line ≠ [] ∧ ∀ last ∈ (front ++ line).getLast?,
      isBlank last = false := by
    have parts := isLine.parts
    rcases isLine.ends with rfl | ends
    · rw [List.append_nil] at parts
      exact parts ▸ ⟨nonempty, laid.last_mark outside⟩
    · obtain ⟨rest, rfl⟩ := List.head?_eq_some_iff.mp ends
      exact laid.mark_before_feed parts
  obtain ⟨middle, last, rfl⟩ : ∃ middle last, line = middle ++ [last] := by
    rcases List.eq_nil_or_concat line with rfl | ⟨middle, last, rfl⟩
    · rw [List.append_nil] at word mark
      have lineFeed := mark '\n' (isLine.begins.resolve_left word)
      simp at lineFeed
    · exact ⟨middle, last, List.concat_eq_append⟩
  have lastMark : isBlank last = false :=
    mark last (by rw [← List.append_assoc, List.getLast?_concat]; rfl)
  refine ⟨?_, by rw [List.getLast?_concat]; rintro _ ⟨rfl⟩; exact lastMark⟩
  have shape : (middle ++ [last]).takeWhile isBlank ++ (middle ++ [last]).dropWhile isBlank =
      middle ++ [last] := List.takeWhile_append_dropWhile
  cases dropped : (middle ++ [last]).dropWhile isBlank with
  | nil =>
    have blank : Text.isBlankText (middle ++ [last]) = true := Text.trimStart_eq_nil_iff.mp dropped
    simp [Text.isBlankText, lastMark] at blank
  | cons first rest =>
    rw [dropped] at shape
    have firstMark : isBlank first = false := Text.not_of_dropWhile_eq_cons dropped
    have parts : text = front ++ (middle ++ [last]).takeWhile isBlank ++ first :: (rest ++ back) := by
      rw [isLine.parts]
      conv => lhs; rw [← shape]
      simp
    exact ⟨_, first, rest, shape.symm, firstMark, laid.spaces_eq parts isLine.begins
      List.all_takeWhile (fun member => isLine.noFeed (List.takeWhile_subset _ member)) firstMark⟩

/-- There is nothing to trim in what a layout has written. -/
theorem isTrimmed (laid : LaidOut indent text) (outside : endsInLiteral text = false)
    (nonempty : text ≠ []) : IsTrimmed text :=
  ⟨nonempty, laid.head_mark, laid.last_mark outside⟩

/-- Nor is there in its lines. -/
theorem trimLines_eq (laid : LaidOut indent text) (outside : endsInLiteral text = false)
    (nonempty : text ≠ []) : text.trimLines = text := by
  have each : ∀ line ∈ text.pieces '\n', line.trimEnd = line := by
    intro line member
    obtain ⟨front, back, isLine⟩ := exists_isLine_of_mem_pieces member
    exact (laid.isIndented outside nonempty isLine).trimEnd_eq
  rw [Text.trimLines, List.map_congr_left each, List.map_id', Text.join_pieces]

end LaidOut

end RouteCatalog
