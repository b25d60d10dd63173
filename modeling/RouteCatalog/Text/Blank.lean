import RouteCatalog.Text.Basic

/-!
# Blank characters

White space as the Unicode property with the information separators U+001C to U+001F; the
zero-width characters U+200B and U+FEFF are not blank. Trimming removes blank characters only.
-/

namespace RouteCatalog

/-- White space. -/
def isBlank (character : Char) : Bool :=
  let code := character.toNat
  (9 ≤ code && code ≤ 13) || (0x1c ≤ code && code ≤ 0x20) || code == 0x85 || code == 0xa0 ||
    code == 0x1680 || (0x2000 ≤ code && code ≤ 0x200a) || code == 0x2028 || code == 0x2029 ||
    code == 0x202f || code == 0x205f || code == 0x3000

/-- Every character that the core library calls white space is blank. -/
theorem isBlank_of_isWhitespace {character : Char} (white : character.isWhitespace = true) :
    isBlank character = true := by
  simp only [Char.isWhitespace, Bool.or_eq_true, decide_eq_true_eq] at white
  rcases white with ((rfl | rfl) | rfl) | rfl <;> decide

/-- The six characters that separate number text in ASCII. -/
def isAsciiBlank (character : Char) : Bool :=
  let code := character.toNat
  (9 ≤ code && code ≤ 13) || code == 0x20

namespace Text

/-- The text without its leading blank characters. -/
def trimStart (text : Text) : Text :=
  text.dropWhile isBlank

/-- The text without its trailing blank characters. -/
def trimEnd (text : Text) : Text :=
  (text.reverse.dropWhile isBlank).reverse

/-- The text without blank characters at either end. -/
def trim (text : Text) : Text :=
  text.trimStart.trimEnd

/-- Has the text no characters but blank ones? -/
def isBlankText (text : Text) : Bool :=
  text.all isBlank

/-- Nothing is left from the first character that is not blank exactly if there is none. -/
theorem trimStart_eq_nil_iff {text : Text} : text.trimStart = [] ↔ text.isBlankText = true := by
  induction text with
  | nil => simp [trimStart, isBlankText]
  | cons character rest inductionHypothesis =>
    unfold trimStart isBlankText at inductionHypothesis ⊢
    by_cases blank : isBlank character = true
    · simp only [List.dropWhile_cons, List.all_cons, blank, if_true, Bool.true_and]
      exact inductionHypothesis
    · simp [blank]

/-- Trimming leaves nothing exactly of a text without other than blank characters. -/
theorem trim_eq_nil_iff {text : Text} : text.trim = [] ↔ text.isBlankText = true := by
  have trimEndNil : ∀ part : Text, part.trimEnd = [] ↔ part.isBlankText = true := by
    intro part
    have reversed := @trimStart_eq_nil_iff part.reverse
    unfold trimStart isBlankText at reversed
    unfold trimEnd isBlankText
    rw [List.reverse_eq_nil_iff, reversed, List.all_reverse]
  rw [trim, trimEndNil]
  have parts : text.takeWhile isBlank ++ text.trimStart = text := List.takeWhile_append_dropWhile
  constructor
  · intro blankRest
    rw [← parts]
    unfold isBlankText at blankRest ⊢
    simp [List.all_append, blankRest, List.all_takeWhile]
  · intro blank
    rw [trimStart_eq_nil_iff.mpr blank]
    rfl

/-- Characters that end a line, a carriage return and a line feed together ending only one. -/
def endsLine (character : Char) : Bool :=
  let code := character.toNat
  (10 ≤ code && code ≤ 13) || (0x1c ≤ code && code ≤ 0x1e) || code == 0x85 || code == 0x2028 ||
    code == 0x2029

/-- The lines of a text without their ends; an end at the very last place opens no further line. -/
def lines : Text → List Text
  | [] => []
  | '\r' :: '\n' :: rest => [] :: lines rest
  | character :: rest =>
    if endsLine character then [] :: lines rest
    else
      match lines rest with
      | [] => [[character]]
      | line :: following => (character :: line) :: following

/-- The text with `\r\n` and `\r` read as one line feed. -/
def unifyLineEnds : Text → Text
  | [] => []
  | '\r' :: '\n' :: rest => '\n' :: unifyLineEnds rest
  | '\r' :: rest => '\n' :: unifyLineEnds rest
  | character :: rest => character :: unifyLineEnds rest

end Text

end RouteCatalog
