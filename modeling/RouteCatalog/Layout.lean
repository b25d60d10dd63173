import RouteCatalog.Text.Blank
import RouteCatalog.Delimiter.Literal
import RouteCatalog.Delimiter.Nesting

/-!
# Laying out type expressions

`layout` writes a type expression over several lines: a new line after every opener and every `,`
or `;`, a new line before every closer, one space after a colon, and no other blanks than single
spaces between words. String literals are copied as they are. The lines are indented by the number
of open groups of all kinds together; a closer without an opener does not take it below zero.
`layoutWithin` refuses indents that are no 64-bit integers, and `layoutWithin_eq_ok_iff` says that it
does nothing else.
-/

namespace RouteCatalog

/-- The state of a layout in progress. -/
structure LayoutState where
  /-- The text written so far, last character first. -/
  written : Text := []
  /-- The number of open groups. -/
  level : Nat := 0
  /-- The string literal being copied. -/
  literal : Literal := {}
  /-- Have blanks been read since the last other character? -/
  pendingSpace : Bool := false
  deriving DecidableEq, Repr

namespace LayoutState

/-- A line feed and the indentation of a level, last character first. -/
def newLine (indent level : Nat) : Text :=
  List.replicate (indent * level) ' ' ++ ['\n']

/-- The text written so far without its trailing blanks. -/
def trimmed (state : LayoutState) : Text :=
  state.written.dropWhile isBlank

/-- The text written so far, with a space where blanks are pending between two words. -/
def spaced (state : LayoutState) : Text :=
  if state.pendingSpace then
    match state.written with
    | [] => []
    | last :: before => if last = ' ' ∨ last = '\n' then last :: before else ' ' :: last :: before
  else state.written

/-- Read one character of the type expression. -/
def feed (indent : Nat) (state : LayoutState) (character : Char) : LayoutState :=
  let literal := state.literal.feed character
  if state.literal.isOpen then
    { state with written := character :: state.written, literal }
  else if isBlank character then
    { state with pendingSpace := true, literal }
  else if Delimiter.isCloser character then
    let level := state.level - 1
    { written := character :: newLine indent level ++ state.trimmed, level, literal }
  else if character = ',' ∨ character = ';' then
    { state with
      written := newLine indent state.level ++ character :: state.trimmed
      literal
      pendingSpace := false }
  else if character = ':' then
    { state with written := ' ' :: ':' :: state.trimmed, literal, pendingSpace := false }
  else if Delimiter.isOpener character then
    let level := state.level + 1
    { written := newLine indent level ++ character :: state.spaced, level, literal }
  else
    { state with written := character :: state.spaced, literal, pendingSpace := false }

end LayoutState

/-- The lines of a text without trailing blanks, and the whole without blanks at its ends. -/
def tidyLines (text : Text) : Text :=
  (Text.join ['\n'] ((text.pieces '\n').map Text.trimEnd)).trim

/-- Write a type expression over several lines; a negative indent is no indent. -/
def layout (indent : Int) (text : Text) : Text :=
  tidyLines (text.foldl (LayoutState.feed indent.toNat) {}).written.reverse

/-- Why a type expression is not laid out. -/
inductive LayoutFault where
  /-- The indent is no 64-bit integer. -/
  | indentBeyondRange
  deriving DecidableEq, Repr

/-- What is wrong with an indent. -/
def indentFault? (indent : Int) : Option LayoutFault :=
  if indent < -0x8000000000000000 ∨ 0x8000000000000000 ≤ indent then some .indentBeyondRange
  else none

/-- Write a type expression over several lines if the indent is a 64-bit integer. -/
def layoutWithin (indent : Int) (text : Text) : Except LayoutFault Text :=
  match indentFault? indent with
  | some fault => .error fault
  | none => .ok (layout indent text)

/-- Nothing is wrong with an indent of 64 bits, and only with such. -/
theorem indentFault?_eq_none_iff {indent : Int} :
    indentFault? indent = none ↔ -0x8000000000000000 ≤ indent ∧ indent < 0x8000000000000000 := by
  unfold indentFault?
  split <;> simp only [reduceCtorEq, true_iff, false_iff] <;> omega

/-- An indent of 64 bits changes nothing about the layout. -/
theorem layoutWithin_eq_ok_iff {indent : Int} {text laidOut : Text} :
    layoutWithin indent text = .ok laidOut ↔
      indentFault? indent = none ∧ layout indent text = laidOut := by
  unfold layoutWithin
  split <;> simp_all

/-- There is a layout for every indent of 64 bits. -/
theorem layoutWithin_of_inRange {indent : Int}
    (inRange : -0x8000000000000000 ≤ indent ∧ indent < 0x8000000000000000) (text : Text) :
    layoutWithin indent text = .ok (layout indent text) :=
  layoutWithin_eq_ok_iff.mpr ⟨indentFault?_eq_none_iff.mpr inRange, rfl⟩

end RouteCatalog
