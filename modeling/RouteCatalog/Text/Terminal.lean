import RouteCatalog.Text.Basic

/-!
# Terminal sequences

An escape sequence that sets a colour or moves the cursor is the escape character, a square bracket,
parameters from `0` to `?`, marks from the space to `/`, and one final character from `@` to `~`.
Output that does not go to a terminal has none.
-/

namespace RouteCatalog

namespace Text

/-- Does the character belong to the parameters of an escape sequence? -/
def isSequenceParameter (character : Char) : Bool :=
  '0' ≤ character && character ≤ '?'

/-- Does the character stand between the parameters of an escape sequence and its end? -/
def isSequenceMark (character : Char) : Bool :=
  ' ' ≤ character && character ≤ '/'

/-- Does the character end an escape sequence? -/
def isSequenceEnd (character : Char) : Bool :=
  '@' ≤ character && character ≤ '~'

/-- The length of the escape sequence at the beginning of a text, if there is one. -/
def sequenceLength? : Text → Option Nat
  | '\x1b' :: '[' :: rest =>
    let parameters := rest.takeWhile isSequenceParameter
    let marks := (rest.drop parameters.length).takeWhile isSequenceMark
    let inside := parameters.length + marks.length
    match rest.drop inside with
    | final :: _ => if isSequenceEnd final then some (inside + 3) else none
    | [] => none
  | _ => none

/-- The text after its first `skipped` characters, without escape sequences. -/
def dropSequencesAfter : (skipped : Nat) → Text → Text
  | _, [] => []
  | skipped + 1, _ :: rest => dropSequencesAfter skipped rest
  | 0, character :: rest =>
    match sequenceLength? (character :: rest) with
    | some length => dropSequencesAfter (length - 1) rest
    | none => character :: dropSequencesAfter 0 rest

/-- The text without escape sequences. -/
def dropSequences (text : Text) : Text :=
  dropSequencesAfter 0 text

/-- A text without the escape character stays as it is. -/
theorem dropSequences_of_not_mem {text : Text} (plain : '\x1b' ∉ text) :
    dropSequences text = text := by
  unfold dropSequences
  induction text with
  | nil => rfl
  | cons character rest inductionHypothesis =>
    simp only [List.mem_cons, not_or] at plain
    have noSequence : sequenceLength? (character :: rest) = none := by
      unfold sequenceLength?
      split
      · rename_i equal
        simp only [List.cons.injEq] at equal
        exact absurd equal.1.symm plain.1
      · rfl
    simp only [dropSequencesAfter, noSequence, inductionHypothesis plain.2]

end Text

end RouteCatalog
