import RouteCatalog.Proofs.Layout.Faithful

/-!
# Layouts and the tokens of a type expression

Outside literals every delimiter, separator and colon is a token of its own, and blanks separate
tokens; a run of other characters and of whole literals is one token. The tokens of a text are told by
its lexemes (`tokensOf_eq_tokensOfLexemes`), so a layout has the tokens of the text:
`tokensOf_layoutWithin`.
-/

namespace RouteCatalog

open LexemeReader

/-- Is the character a token of its own outside literals? -/
def isTokenMark (character : Char) : Bool :=
  Delimiter.isOpener character || Delimiter.isCloser character || character == ',' ||
    character == ';' || character == ':'

/-- The token of a run, unless the run is empty. -/
def runToken (run : Text) : List Text :=
  if run.isEmpty then [] else [run]

/-- The tokens of a text behind a run that may go on in it. -/
def tokensFrom (literal : Literal) (run : Text) : Text → List Text
  | [] => runToken run
  | character :: rest =>
    let next := literal.feed character
    if literal.isOpen then tokensFrom next (run ++ [character]) rest
    else if isBlank character then runToken run ++ tokensFrom next [] rest
    else if isTokenMark character then runToken run ++ [character] :: tokensFrom next [] rest
    else tokensFrom next (run ++ [character]) rest

/-- The tokens of a text. -/
def tokensOf (text : Text) : List Text :=
  tokensFrom {} [] text

/-- The tokens of lexemes behind a run that may go on in them. -/
def tokensOfLexemes (run : Text) : List Lexeme → List Text
  | [] => runToken run
  | lexeme :: rest =>
    if lexeme.quoted then tokensOfLexemes (run ++ [lexeme.character]) rest
    else if isTokenMark lexeme.character then
      runToken run ++ [lexeme.character] :: tokensOfLexemes [] rest
    else if lexeme.spaced then runToken run ++ tokensOfLexemes [lexeme.character] rest
    else tokensOfLexemes (run ++ [lexeme.character]) rest

section Lexemes

variable {reader : LexemeReader} {character : Char} {run : Text}

/-- The characters that lean to a side are the tokens of their own. -/
theorem isTokenMark_eq (character : Char) :
    isTokenMark character = (leansLeft character || leansRight character) := by
  rw [Bool.eq_iff_iff]
  simp only [isTokenMark, leansLeft, leansRight, isRowSeparator, Bool.or_eq_true]
  tauto

/-- The run that goes on in the rest of a text: none behind a gap. -/
def LexemeReader.goingOn (reader : LexemeReader) (run : Text) : Text :=
  if reader.margin = .gap then [] else run

/-- The token that is finished before the rest of a text: the run that a gap ends. -/
def LexemeReader.finished (reader : LexemeReader) (run : Text) : List Text :=
  if reader.margin = .gap then runToken run else []

/-- Behind a character outside literals that is no blank, no run is finished. -/
theorem LexemeReader.margin_feed_ne_gap (outside : reader.literal.isOpen = false)
    (mark : isBlank character = false) : (reader.feed character).margin ≠ .gap := by
  simp only [LexemeReader.feed, outside, mark, Margin.after, Bool.false_eq_true, if_false]
  split <;> simp

/-- The tokens of a text are those of its lexemes. A gap ends a run at once, in the lexemes only the
one behind the gap does. -/
theorem tokensOfLexemes_lexemes (text : Text) (bare : reader.margin = .bare → run = [])
    (inString : reader.literal.isOpen = true → reader.margin = .word) :
    tokensOfLexemes run (reader.lexemes text) =
      reader.finished run ++ tokensFrom reader.literal (reader.goingOn run) text := by
  induction text generalizing reader run with
  | nil =>
    cases margin : reader.margin <;>
      simp [lexemes, tokensOfLexemes, finished, goingOn, tokensFrom, margin, runToken]
  | cons character rest inductionHypothesis =>
    have following (next : Text) (empty : (reader.feed character).margin = .bare → next = []) :=
      @inductionHypothesis _ next empty margin_feed_of_isOpen
    -- Where no gap follows, the run behind the character goes on.
    have goesOn (next : Text) (empty : (reader.feed character).margin = .bare → next = [])
        (settled : (reader.feed character).margin ≠ .gap) :
        tokensOfLexemes next ((reader.feed character).lexemes rest) =
          tokensFrom (reader.literal.feed character) next rest := by
      rw [following next empty, finished, goingOn, if_neg settled, if_neg settled]
      rfl
    cases inside : reader.literal.isOpen with
    | true =>
      have margin : (reader.feed character).margin = .word := by simp [LexemeReader.feed, inside]
      simp [lexemes, lexeme?, tokensOfLexemes, tokensFrom, finished, goingOn, inside,
        inString inside, goesOn (run ++ [character]), margin]
    | false =>
    cases blank : isBlank character with
    | true =>
      have margin : (reader.feed character).margin = reader.margin.afterBlank := by
        simp [LexemeReader.feed, inside, blank]
      have literal : (reader.feed character).literal = reader.literal.feed character := rfl
      cases found : reader.margin with
      | bare =>
        have empty := bare found
        simp [lexemes, lexeme?, tokensFrom, finished, goingOn, inside, blank, found, empty, runToken,
          following, margin, Margin.afterBlank, literal]
      | word | gap =>
        simp [lexemes, lexeme?, tokensFrom, finished, goingOn, inside, blank, found, runToken,
          following run, margin, Margin.afterBlank, literal]
    | false =>
      have settled := margin_feed_ne_gap inside blank
      cases mark : isTokenMark character with
      | true =>
        cases found : reader.margin <;>
          simp [lexemes, lexeme?, tokensOfLexemes, tokensFrom, finished, goingOn, inside, blank, mark,
            found, runToken, goesOn [], settled]
      | false =>
        have leans := isTokenMark_eq character
        rw [mark, eq_comm, Bool.or_eq_false_iff] at leans
        have margin : (reader.feed character).margin = .word := by
          simp [LexemeReader.feed, inside, blank, Margin.after, leans]
        cases found : reader.margin with
        | gap =>
          simp [lexemes, lexeme?, tokensOfLexemes, tokensFrom, finished, goingOn, inside, blank,
            mark, leans, found, runToken, goesOn [character], margin]
        | word | bare =>
          simp [lexemes, lexeme?, tokensOfLexemes, tokensFrom, finished, goingOn, inside, blank,
            mark, found, goesOn (run ++ [character]), margin]

end Lexemes

/-- The tokens of a text are told by its lexemes. -/
theorem tokensOf_eq_tokensOfLexemes (text : Text) :
    tokensOf text = tokensOfLexemes [] (lexemesOf text) :=
  (@tokensOfLexemes_lexemes start [] text (fun _ => rfl) nofun).symm

example : tokensOf "id ?:'a ; b'|\x7bc d\x7d".toList =
    ["id".toList, "?".toList, [':'], "'a ; b'|".toList, ['\x7b'], ['c'], ['d'], ['\x7d']] := by
  decide

/-- There is a layout for every indent of 64 bits, and it has the tokens of the text: none is lost, added,
moved, split or joined to another. -/
theorem tokensOf_layoutWithin {indent : Int} {text : Text} (whole : hasWholeLiterals text = true)
    (inRange : -0x8000000000000000 ≤ indent ∧ indent < 0x8000000000000000) :
    ∃ laidOut, layoutWithin indent text = .ok laidOut ∧ tokensOf laidOut = tokensOf text := by
  refine ⟨layout indent text, layoutWithin_of_inRange inRange text, ?_⟩
  rw [tokensOf_eq_tokensOfLexemes, tokensOf_eq_tokensOfLexemes, (lexemesOf_layout indent whole).1]

/-- A text with literals in a run, surplus closers and blanks about a colon. -/
theorem tokensOf_layoutWithin_unbalanced :
    ∃ laidOut, layoutWithin 2 "a 'b ; c'd :\x7b ] e\n f ,\x7d".toList = .ok laidOut ∧
      tokensOf laidOut = tokensOf "a 'b ; c'd :\x7b ] e\n f ,\x7d".toList :=
  tokensOf_layoutWithin (by decide) (by decide)

/-- An indent that is no 64-bit integer gives no layout, and so none with the tokens of the text. -/
theorem not_tokensOf_layoutWithin_beyondRange :
    hasWholeLiterals "string".toList = true ∧
      ¬∃ laidOut, layoutWithin 0x8000000000000000 "string".toList = .ok laidOut ∧
        tokensOf laidOut = tokensOf "string".toList := by
  refine ⟨by decide, ?_⟩
  rintro ⟨laidOut, found, -⟩
  exact absurd (layoutWithin_eq_ok_iff.mp found).1 (by decide)

end RouteCatalog
