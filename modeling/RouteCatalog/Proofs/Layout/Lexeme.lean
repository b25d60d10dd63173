import RouteCatalog.Proofs.Delimiter.Closed
import RouteCatalog.Proofs.Text.Blank
import RouteCatalog.Shape

/-!
# Lexemes of a type expression

What a type expression says, whatever blanks it is written with: its characters, each with whether it
belongs to a literal and whether blanks separate it from a word before it. Blanks outside literals are
no lexemes, and beside delimiters, separators and colons they leave no trace. Texts read from alike
states have the same lexemes, and trimming a text whose literals are closed keeps them.
-/

namespace RouteCatalog

/-- A character of a type expression that is no blank between words. -/
structure Lexeme where
  character : Char
  /-- Does the character belong to a literal that was open before it? -/
  quoted : Bool
  /-- Do blanks stand between the character and a word before it? -/
  spaced : Bool
  deriving DecidableEq, Repr

/-- Do blanks before the character mean nothing? -/
def leansLeft (character : Char) : Bool :=
  Delimiter.isCloser character || isRowSeparator character || character == ':'

/-- Do blanks after the character mean nothing? -/
def leansRight (character : Char) : Bool :=
  Delimiter.isOpener character || isRowSeparator character || character == ':'

/-- What blanks at the end of a text mean. -/
inductive Margin where
  /-- Nothing, since no word ends before them. -/
  | bare
  /-- Something, but there are none. -/
  | word
  /-- That a word ends before them. -/
  | gap
  deriving DecidableEq, Repr

namespace Margin

/-- The margin after one more blank. -/
def afterBlank : Margin → Margin
  | bare => bare
  | word => gap
  | gap => gap

/-- The margin without the blanks. -/
def settled : Margin → Margin
  | bare => bare
  | word => word
  | gap => word

/-- The margin after a character outside literals that is no blank. -/
def after (character : Char) : Margin :=
  if leansRight character then bare else word

@[simp]
theorem settled_afterBlank (margin : Margin) : margin.afterBlank.settled = margin.settled := by
  cases margin <;> rfl

@[simp]
theorem settled_after (character : Char) : (after character).settled = after character := by
  unfold after
  split <;> rfl

end Margin

/-- Where a reading of lexemes stands. -/
structure LexemeReader where
  literal : Literal := {}
  margin : Margin := .bare
  deriving DecidableEq, Repr

namespace LexemeReader

/-- The lexeme that a character gives; a blank outside literals gives none. -/
def lexeme? (reader : LexemeReader) (character : Char) : Option Lexeme :=
  if reader.literal.isOpen then some ⟨character, true, false⟩
  else if isBlank character then none
  else some ⟨character, false, reader.margin == .gap && !leansLeft character⟩

/-- Read one character. -/
def feed (reader : LexemeReader) (character : Char) : LexemeReader where
  literal := reader.literal.feed character
  margin :=
    if reader.literal.isOpen then .word
    else if isBlank character then reader.margin.afterBlank
    else .after character

/-- Read a whole text. -/
def read (reader : LexemeReader) (text : Text) : LexemeReader :=
  text.foldl feed reader

/-- The lexemes of a text, from any state. -/
def lexemes (reader : LexemeReader) : Text → List Lexeme
  | [] => []
  | character :: rest => (reader.lexeme? character).toList ++ (reader.feed character).lexemes rest

/-- The reader that has read nothing. -/
def start : LexemeReader := {}

@[simp]
theorem read_nil (reader : LexemeReader) : reader.read [] = reader :=
  rfl

@[simp]
theorem read_cons (reader : LexemeReader) (character : Char) (rest : Text) :
    reader.read (character :: rest) = (reader.feed character).read rest :=
  rfl

theorem read_append (reader : LexemeReader) (front back : Text) :
    reader.read (front ++ back) = (reader.read front).read back := by
  simp [read, List.foldl_append]

/-- The lexemes of two texts in sequence. -/
theorem lexemes_append (reader : LexemeReader) (front back : Text) :
    reader.lexemes (front ++ back) = reader.lexemes front ++ (reader.read front).lexemes back := by
  induction front generalizing reader with
  | nil => rfl
  | cons character rest inductionHypothesis =>
    simp [lexemes, inductionHypothesis]

/-- Readers follow the literals of a text as scanners do. -/
theorem literal_read (reader : LexemeReader) (scanner : Scanner)
    (alike : reader.literal.Alike scanner.literal) (text : Text) :
    (reader.read text).literal.Alike (scanner.scan text).literal := by
  induction text generalizing reader scanner with
  | nil => exact alike
  | cons character rest inductionHypothesis =>
    exact inductionHypothesis _ _ (alike.feed character)

/-- Readers that find the same lexemes in every text. -/
structure Alike (left right : LexemeReader) : Prop where
  literal : left.literal.Alike right.literal
  margin : left.margin = right.margin

namespace Alike

variable {left right : LexemeReader}

theorem trans {middle : LexemeReader} (front : Alike left middle) (back : Alike middle right) :
    Alike left right := by
  refine ⟨⟨front.literal.1.trans back.literal.1, fun inside => ?_⟩, front.margin.trans back.margin⟩
  exact (front.literal.2 inside).trans (back.literal.2 (front.literal.isOpen_eq ▸ inside))

theorem lexeme? (alike : Alike left right) (character : Char) :
    left.lexeme? character = right.lexeme? character := by
  simp only [LexemeReader.lexeme?, alike.literal.isOpen_eq, alike.margin]

theorem feed (alike : Alike left right) (character : Char) :
    Alike (left.feed character) (right.feed character) :=
  ⟨alike.literal.feed character, by
    simp only [LexemeReader.feed, alike.literal.isOpen_eq, alike.margin]⟩

theorem lexemes (alike : Alike left right) (text : Text) :
    left.lexemes text = right.lexemes text := by
  induction text generalizing left right with
  | nil => rfl
  | cons character rest inductionHypothesis =>
    simp only [LexemeReader.lexemes, alike.lexeme?, inductionHypothesis (alike.feed character)]

theorem read (alike : Alike left right) (text : Text) : Alike (left.read text) (right.read text) := by
  induction text generalizing left right with
  | nil => exact alike
  | cons character rest inductionHypothesis => exact inductionHypothesis (alike.feed character)

end Alike

section Outside

variable {reader : LexemeReader} {character : Char} {text gap : Text}

/-- No blank is the mark of a literal. -/
theorem ofMark?_of_blank (blank : isBlank character = true) : Quote.ofMark? character = none := by
  refine Option.eq_none_iff_forall_ne_some.mpr fun quote opened => ?_
  rw [Quote.ofMark?_eq_some_iff.mp opened] at blank
  cases quote <;> exact absurd blank (by decide)

/-- A character that is no mark leaves the mark that is open. -/
theorem quote_feed (literal : Literal) (unmarked : Quote.ofMark? character = none) :
    (literal.feed character).quote = literal.quote := by
  have noMark : ∀ quote : Quote, character ≠ quote.mark := by
    rintro quote rfl
    simp at unmarked
  cases found : literal.quote <;>
    simp [Literal.feed, Literal.quoteAfter, found, unmarked, noMark]

/-- A character that is no mark neither opens nor closes a literal. -/
theorem isOpen_feed (unmarked : Quote.ofMark? character = none) :
    (reader.feed character).literal.isOpen = reader.literal.isOpen :=
  congrArg Option.isSome (quote_feed reader.literal unmarked)

/-- A blank neither opens nor closes a literal. -/
theorem isOpen_feed_blank (blank : isBlank character = true) :
    (reader.feed character).literal.isOpen = reader.literal.isOpen :=
  isOpen_feed (ofMark?_of_blank blank)

/-- Blanks neither open nor close a literal. -/
theorem isOpen_read_blank (blank : gap.isBlankText = true) :
    (reader.read gap).literal.isOpen = reader.literal.isOpen := by
  induction gap generalizing reader with
  | nil => rfl
  | cons character rest inductionHypothesis =>
    simp only [Text.isBlankText, List.all_cons, Bool.and_eq_true] at blank
    rw [read_cons, inductionHypothesis blank.2, isOpen_feed_blank blank.1]

/-- Blanks outside literals give no lexemes. -/
theorem lexemes_blank (outside : reader.literal.isOpen = false) (blank : gap.isBlankText = true) :
    reader.lexemes gap = [] := by
  induction gap generalizing reader with
  | nil => rfl
  | cons character rest inductionHypothesis =>
    simp only [Text.isBlankText, List.all_cons, Bool.and_eq_true] at blank
    have still : (reader.feed character).literal.isOpen = false := by
      rw [isOpen_feed_blank blank.1, outside]
    simp [lexemes, lexeme?, outside, blank.1, inductionHypothesis still blank.2]

/-- Blanks outside literals turn a word's end into a gap, and no other margin into another. -/
theorem margin_read_blank (outside : reader.literal.isOpen = false)
    (blank : gap.isBlankText = true) :
    (reader.read gap).margin = if gap = [] then reader.margin else reader.margin.afterBlank := by
  induction gap generalizing reader with
  | nil => rfl
  | cons character rest inductionHypothesis =>
    simp only [Text.isBlankText, List.all_cons, Bool.and_eq_true] at blank
    have still : (reader.feed character).literal.isOpen = false := by
      rw [isOpen_feed_blank blank.1, outside]
    have fed : (reader.feed character).margin = reader.margin.afterBlank := by
      simp [feed, outside, blank.1]
    have twice : reader.margin.afterBlank.afterBlank = reader.margin.afterBlank := by
      cases reader.margin <;> rfl
    rw [read_cons, inductionHypothesis still blank.2, fed, twice]
    simp

/-- Where blanks mean nothing, a reader is alike after them. -/
theorem alike_read_blank (outside : reader.literal.isOpen = false) (bare : reader.margin = .bare)
    (blank : gap.isBlankText = true) : Alike (reader.read gap) reader := by
  refine ⟨.of_not_isOpen (by rw [isOpen_read_blank blank, outside]) outside, ?_⟩
  rw [margin_read_blank outside blank, bare]
  split <;> rfl

/-- A character behind which blanks mean nothing neither opens nor closes a literal. -/
theorem isOpen_feed_of_leansRight (leans : leansRight character = true) :
    (reader.feed character).literal.isOpen = reader.literal.isOpen := by
  refine isOpen_feed (Option.eq_none_iff_forall_ne_some.mpr fun quote opened => ?_)
  rw [Quote.ofMark?_eq_some_iff.mp opened] at leans
  cases quote <;> exact absurd leans (by decide)

/-- In an open literal a reader stands behind a word. -/
theorem margin_feed_of_isOpen (opened : (reader.feed character).literal.isOpen = true) :
    (reader.feed character).margin = .word := by
  cases inside : reader.literal.isOpen with
  | true => simp [feed, inside]
  | false =>
    have mark : isBlank character = false := Bool.eq_false_iff.mpr fun blank => by
      simp [isOpen_feed_blank blank, inside] at opened
    have leans : leansRight character = false := Bool.eq_false_iff.mpr fun leans => by
      simp [isOpen_feed_of_leansRight leans, inside] at opened
    simp [feed, inside, mark, Margin.after, leans]

/-- Trimming keeps the lexemes of a text whose literals are closed. -/
theorem lexemes_trim (closed : (start.read text).literal.isOpen = false) :
    start.lexemes text.trim = start.lexemes text ∧
      (start.read text.trim).literal.isOpen = false := by
  obtain ⟨front, back, blankFront, blankBack, parts⟩ := text.exists_trimmed
  have begins : Alike (start.read front) start := alike_read_blank rfl rfl blankFront
  have ends : (start.read text.trim).literal.isOpen = false := by
    rw [parts, read_append, read_append, isOpen_read_blank blankBack] at closed
    rw [← (begins.read text.trim).literal.isOpen_eq, closed]
  have still : ((start.read front).read text.trim).literal.isOpen = false := by
    rw [(begins.read text.trim).literal.isOpen_eq, ends]
  refine ⟨?_, ends⟩
  conv => rhs; rw [parts]
  rw [lexemes_append, lexemes_append, lexemes_blank rfl blankFront, lexemes_blank still blankBack,
    begins.lexemes]
  simp

end Outside

end LexemeReader

/-- The lexemes of a text. -/
def lexemesOf (text : Text) : List Lexeme :=
  LexemeReader.start.lexemes text

/-- Is the literal closed in the text, as all others that are opened, and does none go on behind a
line feed? -/
def Literal.staysOnLine (literal : Literal) : Text → Bool
  | [] => !literal.isOpen
  | character :: rest =>
    !(literal.isOpen && character == '\n') && (literal.feed character).staysOnLine rest

/-- Are all literals of the text closed on the line where they begin? -/
def hasWholeLiterals (text : Text) : Bool :=
  Literal.staysOnLine {} text

/-- Whether literals are closed on their lines is told by the lexemes and the end of the text. -/
theorem LexemeReader.staysOnLine_eq (reader : LexemeReader) (text : Text) :
    reader.literal.staysOnLine text =
      ((reader.lexemes text).all (fun lexeme => !(lexeme.quoted && lexeme.character == '\n')) &&
        !(reader.read text).literal.isOpen) := by
  induction text generalizing reader with
  | nil => rfl
  | cons character rest inductionHypothesis =>
    have following := inductionHypothesis (reader.feed character)
    have fed : (reader.feed character).literal = reader.literal.feed character := rfl
    rw [fed] at following
    rw [Literal.staysOnLine, following, lexemes, List.all_append, read_cons, Bool.and_assoc]
    congr 1
    cases inside : reader.literal.isOpen <;> cases blank : isBlank character <;>
      simp [lexeme?, inside, blank]

end RouteCatalog
