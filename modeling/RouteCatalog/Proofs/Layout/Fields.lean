import Mathlib.Data.List.Forall2
import RouteCatalog.Proofs.Entry
import RouteCatalog.Proofs.Layout.Faithful
import RouteCatalog.Proofs.Rows

/-!
# Layouts and the fields of an object type

The fields of an object type are told by its lexemes: `fieldsOf_view` reads them off the lexemes, and
the type of a field only by its own. A layout therefore has the fields of the text, whatever the
delimiters of the text are: `fieldsOf_layoutWithin`.
-/

namespace RouteCatalog

open LexemeReader

/-- What the lexemes of a row say of a field: its key, whether it is optional, and its type. -/
structure FieldView where
  key : Text
  optional : Bool
  type : List Lexeme
  deriving DecidableEq, Repr

/-- What the lexemes of its type leave of a field. -/
def Field.view (field : Field) : FieldView :=
  ⟨field.key, field.optional, lexemesOf field.type⟩

/-- The parts of lexemes between the separators outside literals and groups. -/
def splitLexemes (nesting : Nesting) : List Lexeme → List (List Lexeme)
  | [] => [[]]
  | lexeme :: rest =>
    let next := if lexeme.quoted then nesting else nesting.feed lexeme.character
    if isRowSeparator lexeme.character && (!lexeme.quoted && nesting.depth == 0) then
      [] :: splitLexemes next rest
    else (splitLexemes next rest).modifyHead (lexeme :: ·)

/-- The lexemes between the braces at the ends. -/
def unwrapLexemes? : List Lexeme → Option (List Lexeme)
  | [] => none
  | first :: rest =>
    if first.character = '{' ∧ rest.getLast?.map Lexeme.character = some '}' then some rest.dropLast
    else none

/-- The lexemes behind a colon that comes first. -/
def afterColonLexemes? : List Lexeme → Option (List Lexeme)
  | [] => none
  | first :: rest => if first.character = ':' then some rest else none

/-- Does the lexeme go on with the identifier before it? -/
def Lexeme.continues (lexeme : Lexeme) : Bool :=
  !lexeme.spaced && isIdentifierRest lexeme.character

/-- Does the lexeme make the key before it optional? -/
def Lexeme.isOptionalMark (lexeme : Lexeme) : Bool :=
  !lexeme.spaced && lexeme.character == '?'

/-- The field that the lexemes of a row declare. -/
def fieldOfLexemes? : List Lexeme → Option FieldView
  | [] => none
  | first :: rest =>
    if isIdentifierStart first.character then
      let key := first.character :: (rest.takeWhile Lexeme.continues).map Lexeme.character
      match rest.dropWhile Lexeme.continues with
      | [] => none
      | next :: following =>
        if next.isOptionalMark then (afterColonLexemes? following).map fun type => ⟨key, true, type⟩
        else (afterColonLexemes? (next :: following)).map fun type => ⟨key, false, type⟩
    else none

section Rows

/-- Blanks do not separate rows. -/
theorem isRowSeparator_of_isBlank {character : Char} (blank : isBlank character = true) :
    isRowSeparator character = false := by
  have other : character ∉ [',', ';'] := not_mem_of_any blank (by decide)
  simpa [isRowSeparator] using other

/-- Behind a mark that leans right a reader is as good as new. -/
theorem LexemeReader.alike_start {reader : LexemeReader} {character : Char}
    (outside : reader.literal.isOpen = false) (leans : leansRight character = true)
    (mark : isBlank character = false) : Alike (reader.feed character) start :=
  ⟨.of_not_isOpen ((isOpen_feed_of_leansRight leans).trans outside) rfl, by
    simp [feed, outside, mark, Margin.after, leans, start]⟩

/-- The lexemes of the rows are the parts of the lexemes. -/
theorem splitLexemes_lexemes (scanner : Scanner) (reader : LexemeReader)
    (alike : reader.literal.Alike scanner.literal) (text : Text) :
    ∃ first others, splitFrom isRowSeparator scanner text = first :: others ∧
      splitLexemes scanner.nesting (reader.lexemes text) =
        reader.lexemes first :: others.map lexemesOf := by
  induction text generalizing scanner reader with
  | nil => exact ⟨[], [], rfl, rfl⟩
  | cons character rest inductionHypothesis =>
    obtain ⟨first, others, parts, lexemes⟩ :=
      inductionHypothesis (scanner.feed character) (reader.feed character) (alike.feed character)
    have quoted : scanner.inString = reader.literal.isOpen := alike.isOpen_eq.symm
    cases inside : reader.literal.isOpen with
    | true =>
      rw [inside] at quoted
      have same : (scanner.feed character).nesting = scanner.nesting := by simp [Scanner.feed, quoted]
      rw [same] at lexemes
      refine ⟨character :: first, others, ?_, ?_⟩
      · simp [splitFrom, Scanner.atTopLevel, quoted, parts]
      · simp [LexemeReader.lexemes, lexeme?, inside, splitLexemes, lexemes]
    | false =>
    rw [inside] at quoted
    cases blank : isBlank character with
    | true =>
      have same := (Scanner.feed_plain quoted (isPlain_of_isBlank blank)).2
      rw [same] at lexemes
      refine ⟨character :: first, others, ?_, ?_⟩
      · simp [splitFrom, isRowSeparator_of_isBlank blank, parts]
      · simpa [LexemeReader.lexemes, lexeme?, inside, blank] using lexemes
    | false =>
      have same : (scanner.feed character).nesting = scanner.nesting.feed character := by
        simp [Scanner.feed, quoted]
      rw [same] at lexemes
      cases cut : isRowSeparator character && scanner.nesting.depth == 0 with
      | true =>
        have separates := (Bool.and_eq_true_iff.mp cut).1
        have behind := alike_start inside (by simp [leansRight, separates]) blank
        refine ⟨[], first :: others, ?_, ?_⟩
        · simp [splitFrom, Scanner.atTopLevel, Scanner.depth, quoted, cut, parts]
        · rw [behind.lexemes first] at lexemes
          simp [LexemeReader.lexemes, lexeme?, inside, blank, splitLexemes, cut, lexemes, lexemesOf]
      | false =>
        refine ⟨character :: first, others, ?_, ?_⟩
        · simp [splitFrom, Scanner.atTopLevel, Scanner.depth, quoted, cut, parts]
        · simp [LexemeReader.lexemes, lexeme?, inside, blank, splitLexemes, cut, lexemes]

end Rows

section Braces

variable {text : Text}

/-- The last lexeme of a text that does not end with a blank is its last character. -/
theorem lexemes_concat (reader : LexemeReader) (text : Text) {last : Char}
    (mark : isBlank last = false) :
    ∃ lexeme : Lexeme, lexeme.character = last ∧
      reader.lexemes (text ++ [last]) = reader.lexemes text ++ [lexeme] := by
  have given : ∃ lexeme : Lexeme, lexeme.character = last ∧
      (reader.read text).lexeme? last = some lexeme := by
    unfold lexeme?
    split
    · exact ⟨_, rfl, rfl⟩
    · exact ⟨_, rfl, by simp [mark]; rfl⟩
  obtain ⟨lexeme, character, found⟩ := given
  exact ⟨lexeme, character, by simp [lexemes_append, LexemeReader.lexemes, found]⟩

/-- The lexemes between the braces are those of the interior, whose literals are closed too. -/
theorem unwrapBraces?_lexemes (closed : (start.read text).literal.isOpen = false) :
    (unwrapBraces? text).map lexemesOf = unwrapLexemes? (lexemesOf text) ∧
      ∀ interior, unwrapBraces? text = some interior →
        (start.read interior).literal.isOpen = false := by
  obtain ⟨same, closedTrimmed⟩ := lexemes_trim closed
  rw [lexemesOf, ← same]
  unfold unwrapBraces?
  cases trimmed : text.trim with
  | nil => exact ⟨rfl, by simp⟩
  | cons first rest =>
    have mark := Text.not_blank_of_trim_eq_cons trimmed
    have lexeme : start.lexeme? first = some ⟨first, false, false⟩ := by
      simp [lexeme?, mark, start, Literal.isOpen]
    have lexemes : start.lexemes (first :: rest) =
        ⟨first, false, false⟩ :: (start.feed first).lexemes rest := by
      simp [LexemeReader.lexemes, lexeme]
    rw [lexemes]
    by_cases opens : first = '{'
    · subst opens
      have behind : Alike (start.feed '{') start := alike_start rfl (by decide) (by decide)
      rw [trimmed, read_cons, (behind.read rest).literal.isOpen_eq] at closedTrimmed
      rw [behind.lexemes]
      rcases List.eq_nil_or_concat rest with rfl | ⟨inner, last, rfl⟩
      · exact ⟨by decide, by simp⟩
      · have shape : text.trim = ('{' :: inner) ++ [last] := by simpa using trimmed
        obtain ⟨lexeme, character, parts⟩ :=
          lexemes_concat start inner (Text.not_blank_of_trim_eq_concat shape)
        rw [List.concat_eq_append, parts]
        by_cases closes : last = '}'
        · subst closes
          rw [List.concat_eq_append, read_append, read_cons, read_nil,
            isOpen_feed (by decide)] at closedTrimmed
          simp [unwrapLexemes?, character, lexemesOf, closedTrimmed]
        · simp [unwrapLexemes?, character, closes]
    · simp [unwrapLexemes?, opens]

end Braces

section Key

variable {reader : LexemeReader} {character : Char} {text : Text}

/-- The reader stands outside literals, right behind a word. -/
structure AtWord (reader : LexemeReader) : Prop where
  outside : reader.literal.isOpen = false
  word : reader.margin = .word

theorem AtWord.alike {left right : LexemeReader} (atLeft : AtWord left) (atRight : AtWord right) :
    Alike left right :=
  ⟨.of_not_isOpen atLeft.outside atRight.outside, atLeft.word.trans atRight.word.symm⟩

/-- A character of an identifier does not lean, and is neither a mark nor a blank. -/
theorem identifier_apart (identifier : isIdentifierRest character = true) :
    Quote.ofMark? character = none ∧ isBlank character = false ∧ leansLeft character = false ∧
      leansRight character = false := by
  have other := not_mem_of_isIdentifierRest identifier
  simp only [List.mem_cons, List.not_mem_nil, or_false, not_or] at other
  refine ⟨by simp [Quote.ofMark?, other], isBlank_of_isIdentifierRest identifier, ?_, ?_⟩
  · simp [leansLeft, isRowSeparator, Delimiter.isCloser, Delimiter.ofCloser?, other]
  · simp [leansRight, isRowSeparator, Delimiter.isOpener, Delimiter.ofOpener?, other]

/-- An identifier leaves the reader behind a word. -/
theorem atWord_feed (outside : reader.literal.isOpen = false)
    (identifier : isIdentifierRest character = true) : AtWord (reader.feed character) := by
  obtain ⟨unmarked, mark, -, leans⟩ := identifier_apart identifier
  exact ⟨(isOpen_feed unmarked).trans outside, by simp [feed, outside, mark, Margin.after, leans]⟩

/-- Behind a gap, the first lexeme is spaced unless it leans left. -/
theorem head_of_gap (outside : reader.literal.isOpen = false) (gap : reader.margin = .gap)
    {lexeme : Lexeme} (first : lexeme ∈ (reader.lexemes text).head?) :
    lexeme.continues = false ∧ lexeme.isOptionalMark = false := by
  induction text generalizing reader with
  | nil => cases first
  | cons character rest inductionHypothesis =>
    cases blank : isBlank character with
    | true =>
      have none : reader.lexeme? character = none := by simp [lexeme?, outside, blank]
      rw [LexemeReader.lexemes, none, Option.toList_none, List.nil_append] at first
      refine inductionHypothesis ((isOpen_feed_blank blank).trans outside) ?_ first
      simp [feed, outside, blank, gap, Margin.afterBlank]
    | false =>
      have found : reader.lexeme? character = some ⟨character, false, !leansLeft character⟩ := by
        simp [lexeme?, outside, blank, gap]
      rw [LexemeReader.lexemes, found] at first
      obtain rfl : (⟨character, false, !leansLeft character⟩ : Lexeme) = lexeme := by simpa using first
      cases leans : leansLeft character with
      | false => simp [Lexeme.continues, Lexeme.isOptionalMark]
      | true =>
        have noIdentifier : isIdentifierRest character = false := by
          refine Bool.eq_false_iff.mpr fun identifier => ?_
          simp [identifier_apart identifier] at leans
        have noOptional : character ≠ '?' := by
          rintro rfl
          exact absurd leans (by decide)
        simp [Lexeme.continues, Lexeme.isOptionalMark, noIdentifier, noOptional]

/-- Behind a word, the first character is the first lexeme, and goes on as the lexeme does. -/
theorem head_of_word (atWord : AtWord reader) {lexeme : Lexeme}
    (first : lexeme ∈ (reader.lexemes (character :: text)).head?) :
    (isIdentifierRest character = false → lexeme.continues = false) ∧
      (character ≠ '?' → lexeme.isOptionalMark = false) := by
  cases blank : isBlank character with
  | true =>
    have none : reader.lexeme? character = none := by simp [lexeme?, atWord.outside, blank]
    rw [LexemeReader.lexemes, none, Option.toList_none, List.nil_append] at first
    have behind := head_of_gap ((isOpen_feed_blank blank).trans atWord.outside)
      (by simp [feed, atWord.outside, blank, atWord.word, Margin.afterBlank]) first
    exact ⟨fun _ => behind.1, fun _ => behind.2⟩
  | false =>
    have found : reader.lexeme? character = some ⟨character, false, false⟩ := by
      simp [lexeme?, atWord.outside, blank, atWord.word]
    rw [LexemeReader.lexemes, found] at first
    obtain rfl : (⟨character, false, false⟩ : Lexeme) = lexeme := by simpa using first
    exact ⟨fun other => by simp [Lexeme.continues, other],
      fun other => by simp [Lexeme.isOptionalMark, other]⟩

/-- The lexemes of an identifier are its characters, and it leaves the reader as it was. -/
theorem lexemes_identifier (atWord : AtWord reader) (text : Text) :
    ((reader.lexemes text).takeWhile Lexeme.continues).map Lexeme.character =
        text.takeWhile isIdentifierRest ∧
      (reader.lexemes text).dropWhile Lexeme.continues =
        reader.lexemes (text.dropWhile isIdentifierRest) ∧
      Alike (reader.read text) (reader.read (text.dropWhile isIdentifierRest)) := by
  induction text with
  | nil => exact ⟨rfl, rfl, atWord.alike atWord⟩
  | cons character rest inductionHypothesis =>
    cases identifier : isIdentifierRest character with
    | true =>
      obtain ⟨taken, left, alike⟩ := inductionHypothesis
      obtain ⟨unmarked, mark, -, leans⟩ := identifier_apart identifier
      have found : reader.lexeme? character = some ⟨character, false, false⟩ := by
        simp [lexeme?, atWord.outside, mark, atWord.word]
      have goes : Lexeme.continues ⟨character, false, false⟩ = true := by
        simp [Lexeme.continues, identifier]
      have same : Alike (reader.feed character) reader :=
        (atWord_feed atWord.outside identifier).alike atWord
      refine ⟨?_, ?_, ?_⟩
      · simp [LexemeReader.lexemes, found, same.lexemes, goes, taken, identifier]
      · simp [LexemeReader.lexemes, found, same.lexemes, goes, left, identifier]
      · rw [read_cons, List.dropWhile_cons_of_pos identifier]
        exact (same.read rest).trans alike
    | false =>
      have stop : (reader.lexemes (character :: rest)).takeWhile Lexeme.continues = [] ∧
          (reader.lexemes (character :: rest)).dropWhile Lexeme.continues =
            reader.lexemes (character :: rest) := by
        cases found : reader.lexemes (character :: rest) with
        | nil => exact ⟨rfl, rfl⟩
        | cons first others =>
          have stops := (head_of_word atWord (by rw [found]; rfl)).1 identifier
          simp [stops]
      rw [stop.1, stop.2, List.takeWhile_cons_of_neg (by simp [identifier]),
        List.dropWhile_cons_of_neg (by simp [identifier])]
      exact ⟨rfl, rfl, ⟨⟨rfl, fun _ => rfl⟩, rfl⟩⟩

/-- What follows a colon is told by the lexemes. -/
theorem afterColonLexemes?_lexemes (outside : reader.literal.isOpen = false) (text : Text) :
    afterColonLexemes? (reader.lexemes text) = (afterColon? text).map lexemesOf ∧
      ∀ rest, afterColon? text = some rest → Alike (reader.read text) (start.read rest) := by
  obtain ⟨gap, blank, parts⟩ := text.exists_trimStart
  have still : (reader.read gap).literal.isOpen = false := (isOpen_read_blank blank).trans outside
  have lexemes : reader.lexemes text = (reader.read gap).lexemes text.trimStart := by
    conv => lhs; rw [parts]
    rw [lexemes_append, lexemes_blank outside blank, List.nil_append]
  have read : reader.read text = (reader.read gap).read text.trimStart := by
    conv => lhs; rw [parts]
    rw [read_append]
  rw [lexemes, read]
  unfold afterColon?
  cases trimmed : text.trimStart with
  | nil => exact ⟨rfl, by simp⟩
  | cons first rest =>
    have mark : isBlank first = false := Text.not_of_dropWhile_eq_cons trimmed
    by_cases colon : first = ':'
    · subst colon
      have behind : Alike ((reader.read gap).feed ':') start := alike_start still (by decide) mark
      refine ⟨?_, ?_⟩
      · simp [LexemeReader.lexemes, lexeme?, still, mark, afterColonLexemes?, behind.lexemes, lexemesOf]
      · rintro _ ⟨rfl⟩
        exact behind.read rest
    · simp [LexemeReader.lexemes, lexeme?, still, mark, afterColonLexemes?, colon]

end Key

section Field

variable {reader : LexemeReader} {row text : Text}

/-- A type behind a colon is told by its lexemes, without the blanks at its ends. -/
theorem typed_view (outside : reader.literal.isOpen = false)
    (closed : (reader.read text).literal.isOpen = false) (key : Text) (optional : Bool) :
    ((afterColon? text).map fun type => (⟨key, optional, type.trim⟩ : Field)).map Field.view =
      (afterColonLexemes? (reader.lexemes text)).map fun type => ⟨key, optional, type⟩ := by
  obtain ⟨lexemes, ends⟩ := afterColonLexemes?_lexemes outside text
  rw [lexemes]
  cases found : afterColon? text with
  | none => rfl
  | some type =>
    have closedType : (start.read type).literal.isOpen = false := by
      rw [← (ends type found).literal.isOpen_eq, closed]
    simp [Field.view, lexemesOf, (lexemes_trim closedType).1]

/-- Blanks at the beginning of a row mean nothing. -/
theorem lexemesOf_trimStart (row : Text) : lexemesOf row = lexemesOf row.trimStart ∧
    Alike (start.read row) (start.read row.trimStart) := by
  obtain ⟨gap, blank, parts⟩ := row.exists_trimStart
  have begins : Alike (start.read gap) start := alike_read_blank rfl rfl blank
  generalize row.trimStart = back at parts
  subst parts
  rw [read_append, lexemesOf, lexemesOf, lexemes_append, lexemes_blank rfl blank, List.nil_append]
  exact ⟨begins.lexemes back, begins.read back⟩

/-- A question mark right behind a word is a lexeme, and no literal is open behind it. -/
theorem lexemes_question (atWord : AtWord reader) (rest : Text) :
    reader.lexemes ('?' :: rest) = ⟨'?', false, false⟩ :: (reader.feed '?').lexemes rest ∧
      (reader.feed '?').literal.isOpen = false := by
  have question : reader.lexeme? '?' = some ⟨'?', false, false⟩ := by
    simp [lexeme?, atWord.outside, atWord.word, show isBlank '?' = false by decide]
  exact ⟨by rw [LexemeReader.lexemes, question]; rfl, (isOpen_feed (by decide)).trans atWord.outside⟩

/-- The field of a row whose literals are closed is told by the lexemes of the row. -/
theorem fieldOfRow?_view (closed : (start.read row).literal.isOpen = false) :
    (fieldOfRow? row).map Field.view = fieldOfLexemes? (lexemesOf row) := by
  obtain ⟨lexemes, begins⟩ := lexemesOf_trimStart row
  rw [begins.literal.isOpen_eq] at closed
  rw [lexemes, lexemesOf]
  unfold fieldOfRow?
  cases trimmed : row.trimStart with
  | nil => rfl
  | cons first rest =>
    have mark : isBlank first = false := Text.not_of_dropWhile_eq_cons trimmed
    have head : start.lexemes (first :: rest) =
        ⟨first, false, false⟩ :: (start.feed first).lexemes rest := by
      simp [LexemeReader.lexemes, lexeme?, mark, start, Literal.isOpen]
    rw [head]
    cases identifier : isIdentifierStart first with
    | false => simp [fieldOfLexemes?, identifier]
    | true =>
      have atWord : AtWord (start.feed first) :=
        atWord_feed rfl (isIdentifierRest_of_isIdentifierStart identifier)
      obtain ⟨key, following, alike⟩ := lexemes_identifier atWord rest
      rw [trimmed, read_cons, alike.literal.isOpen_eq] at closed
      simp only [fieldOfLexemes?, identifier, if_true, key, following]
      generalize rest.dropWhile isIdentifierRest = behind at closed
      generalize first :: rest.takeWhile isIdentifierRest = key
      cases behind with
      | nil => rfl
      | cons next others =>
        by_cases optional : next = '?'
        · subst optional
          obtain ⟨question, outside⟩ := lexemes_question atWord others
          simpa [question, Lexeme.isOptionalMark] using typed_view outside closed key true
        · have typed := typed_view atWord.outside closed key false
          cases found : (start.feed first).lexemes (next :: others) with
          | nil =>
            rw [found] at typed
            simpa [optional, afterColonLexemes?] using typed
          | cons lexeme more =>
            have required := (head_of_word atWord (by rw [found]; rfl)).2 optional
            rw [found] at typed
            simpa [optional, required] using typed

/-- The literals of the rows are closed if those of the whole are. -/
theorem closed_rows (closed : (start.read text).literal.isOpen = false) :
    ∀ row ∈ rows text, (start.read row).literal.isOpen = false := by
  intro row member
  obtain ⟨front, back, rfl, boundary, -, ends⟩ := mem_rows_iff.mp member
  cases ends with
  | before _ top =>
    simp only [Scanner.atTopLevel, Bool.and_eq_true, Bool.not_eq_true'] at top
    exact (literal_read start .start (.of_not_isOpen rfl rfl) row).isOpen_eq.trans top.1
  | final =>
    have top := boundary.top
    simp only [Scanner.atTopLevel, Bool.and_eq_true, Bool.not_eq_true'] at top
    have whole := literal_read start .start (.of_not_isOpen rfl rfl) (front ++ (row ++ []))
    rw [List.append_nil, Scanner.scan_append] at whole
    rw [List.append_nil, whole.isOpen_eq] at closed
    exact (literal_read start _ (.of_not_isOpen rfl top.1) row).isOpen_eq.trans closed

/-- The fields of a text whose literals are closed are told by the lexemes of the text. -/
theorem fieldsOf_view (closed : (start.read text).literal.isOpen = false) :
    (fieldsOf text).map Field.view =
      ((unwrapLexemes? (lexemesOf text)).map fun inside =>
        (splitLexemes {} inside).filterMap fieldOfLexemes?).getD [] := by
  obtain ⟨same, closedInside⟩ := unwrapBraces?_lexemes closed
  rw [← same, fieldsOf]
  cases found : unwrapBraces? text with
  | none => rfl
  | some interior =>
    obtain ⟨first, others, parts, lexemes⟩ :=
      splitLexemes_lexemes .start .start ⟨rfl, nofun⟩ interior
    have closedRow := closed_rows (closedInside interior found)
    have rowLexemes : splitLexemes {} (lexemesOf interior) = (rows interior).map lexemesOf := by
      rw [rows, splitTopLevel, parts]
      exact lexemes
    simp only [Option.map_some, Option.getD_some, rowLexemes, List.filterMap_map,
      List.map_filterMap]
    refine List.filterMap_congr fun row member => ?_
    exact fieldOfRow?_view (closedRow row member)

end Field

/-- Two fields have the same key, are both optional or both not, and have types of the same layout. -/
structure Field.LaidOutAs (indent : Int) (field original : Field) : Prop where
  key : field.key = original.key
  optional : field.optional = original.optional
  type : layoutWithin indent field.type = layoutWithin indent original.type

/-- There is a layout for every indent of 64 bits, and it has the fields of the text, whatever delimiters
are open or surplus in the text. -/
theorem fieldsOf_layoutWithin {indent : Int} {text : Text} (whole : hasWholeLiterals text = true)
    (inRange : -0x8000000000000000 ≤ indent ∧ indent < 0x8000000000000000) :
    ∃ laidOut, layoutWithin indent text = .ok laidOut ∧
      List.Forall₂ (Field.LaidOutAs indent) (fieldsOf laidOut) (fieldsOf text) := by
  have closed : (start.read text).literal.isOpen = false := by
    have told := start.staysOnLine_eq text
    rw [show start.literal.staysOnLine text = true from whole] at told
    simpa using (Bool.and_eq_true_iff.mp told.symm).2
  obtain ⟨same, closedLayout⟩ := lexemesOf_layout indent whole
  have views : (fieldsOf (layout indent text)).map Field.view = (fieldsOf text).map Field.view := by
    rw [fieldsOf_view closedLayout, fieldsOf_view closed, same]
  refine ⟨layout indent text, layoutWithin_of_inRange inRange text, ?_⟩
  rw [← List.forall₂_eq_eq_eq, List.forall₂_map_left_iff, List.forall₂_map_right_iff] at views
  refine views.imp fun field original view => ?_
  simp only [Field.view, FieldView.mk.injEq] at view
  refine ⟨view.1, view.2.1, ?_⟩
  rw [layoutWithin, layoutWithin, layout_eq_compose, layout_eq_compose, view.2.2]

/-- A text with a bracket that is never closed. -/
theorem fieldsOf_layoutWithin_unbalanced :
    ∃ laidOut, layoutWithin 2 "\x7b a?:A|'x  y' ;b :[ B \x7d".toList = .ok laidOut ∧
      List.Forall₂ (Field.LaidOutAs 2) (fieldsOf laidOut)
        (fieldsOf "\x7b a?:A|'x  y' ;b :[ B \x7d".toList) :=
  fieldsOf_layoutWithin (by decide) (by decide)

/-- An indent that is no 64-bit integer gives no layout, of any text. -/
theorem not_layoutWithin_beyondRange :
    hasWholeLiterals "string".toList = true ∧
      ¬∃ laidOut, layoutWithin 0x8000000000000000 "string".toList = .ok laidOut := by
  refine ⟨by decide, fun ⟨laidOut, found⟩ => ?_⟩
  exact absurd (layoutWithin_eq_ok_iff.mp found).1 (by decide)

end RouteCatalog
