import RouteCatalog.Delimiter.Scanner

/-!
# Delimited blocks

A block begins at an opening delimiter and ends with the first later character after which the
scan is at top level again. Reading starts at the opener, so nothing before it matters.
-/

namespace RouteCatalog

/-- The number of characters before the one that brings the scanner back to top level. -/
def lengthToTopLevel? (scanner : Scanner) : Text → Option Nat
  | [] => none
  | character :: rest =>
    if (scanner.feed character).atTopLevel then some 0
    else (lengthToTopLevel? (scanner.feed character) rest).map (· + 1)

/-- The scanner is at top level after the characters and the one more, and not before. -/
theorem lengthToTopLevel?_eq_some_iff {scanner : Scanner} {text : Text} {length : Nat} :
    lengthToTopLevel? scanner text = some length ↔
      length < text.length ∧ (scanner.scan (text.take (length + 1))).atTopLevel = true ∧
        ∀ shorter, shorter < length →
          (scanner.scan (text.take (shorter + 1))).atTopLevel = false := by
  induction text generalizing scanner length with
  | nil => simp [lengthToTopLevel?]
  | cons character rest inductionHypothesis =>
    simp only [lengthToTopLevel?, List.take_succ_cons, Scanner.scan_cons, List.length_cons]
    by_cases top : (scanner.feed character).atTopLevel = true
    · simp only [top, if_true, Option.some.injEq]
      constructor
      · rintro rfl
        simp [top]
      · rintro ⟨_, _, none⟩
        cases length with
        | zero => rfl
        | succ length =>
          have early := none 0 (Nat.succ_pos length)
          simp [top] at early
    · simp only [top, if_false, Option.map_eq_some_iff, Bool.false_eq_true]
      constructor
      · rintro ⟨inner, found, rfl⟩
        obtain ⟨short, reached, never⟩ := inductionHypothesis.mp found
        refine ⟨Nat.succ_lt_succ short, reached, ?_⟩
        intro shorter less
        cases shorter with
        | zero => simpa using top
        | succ shorter => exact never shorter (Nat.lt_of_succ_lt_succ less)
      · rintro ⟨short, reached, never⟩
        cases length with
        | zero => exact absurd (by simpa using reached) top
        | succ length =>
          refine ⟨length, inductionHypothesis.mpr ⟨Nat.lt_of_succ_lt_succ short, reached, ?_⟩, rfl⟩
          intro shorter less
          exact never (shorter + 1) (Nat.succ_lt_succ less)

/-- The length of the interior of the block at the beginning of the text. -/
def interiorLength? : Text → Option Nat
  | [] => none
  | opener :: rest =>
    if Delimiter.isOpener opener then lengthToTopLevel? (Scanner.start.feed opener) rest else none

/-- The index of the delimiter that closes the one at index `start`. -/
def blockEnd? (text : Text) (start : Nat) : Option Nat :=
  (interiorLength? (text.drop start)).map (start + 1 + ·)

/-- The interior of the block at the beginning of the text. -/
def interior? : Text → Option Text
  | [] => none
  | opener :: rest => (interiorLength? (opener :: rest)).map rest.take

/-- The block at the beginning of the text, with the delimiters that open and close it. The closing
delimiter need not be of the kind of the opening one where groups overlap. -/
def block? (text : Text) : Option Text :=
  (interiorLength? text).map fun length => text.take (length + 2)

/-- Is the whole text one block? -/
def isOneBlock (text : Text) : Bool :=
  interiorLength? text == some (text.length - 2)

end RouteCatalog
