import RouteCatalog.Text.Basic

/-!
# Nesting of parentheses, braces and brackets

Each kind of delimiter is counted on its own. A closer without an opener of its kind changes
nothing, so no count is ever negative.
-/

namespace RouteCatalog

/-- The three kinds of paired delimiters. -/
inductive Delimiter where
  | paren
  | brace
  | bracket
  deriving DecidableEq, Repr

namespace Delimiter

/-- The character that opens a group of this kind. -/
def opener : Delimiter → Char
  | paren => '('
  | brace => '{'
  | bracket => '['

/-- The character that closes a group of this kind. -/
def closer : Delimiter → Char
  | paren => ')'
  | brace => '}'
  | bracket => ']'

/-- The kind of group that a character opens. -/
def ofOpener? : Char → Option Delimiter
  | '(' => some paren
  | '{' => some brace
  | '[' => some bracket
  | _ => none

/-- The kind of group that a character closes. -/
def ofCloser? : Char → Option Delimiter
  | ')' => some paren
  | '}' => some brace
  | ']' => some bracket
  | _ => none

/-- Does the character open a group? -/
def isOpener (character : Char) : Bool :=
  (ofOpener? character).isSome

/-- Does the character close a group? -/
def isCloser (character : Char) : Bool :=
  (ofCloser? character).isSome

@[simp]
theorem ofOpener?_opener (kind : Delimiter) : ofOpener? kind.opener = some kind := by
  cases kind <;> rfl

@[simp]
theorem ofCloser?_closer (kind : Delimiter) : ofCloser? kind.closer = some kind := by
  cases kind <;> rfl

/-- A character opens the groups of one kind only. -/
theorem ofOpener?_eq_some_iff {character : Char} {kind : Delimiter} :
    ofOpener? character = some kind ↔ character = kind.opener := by
  constructor
  · intro opens
    unfold ofOpener? at opens
    split at opens <;> cases opens <;> rfl
  · rintro rfl
    exact ofOpener?_opener kind

/-- A character closes the groups of one kind only. -/
theorem ofCloser?_eq_some_iff {character : Char} {kind : Delimiter} :
    ofCloser? character = some kind ↔ character = kind.closer := by
  constructor
  · intro closes
    unfold ofCloser? at closes
    split at closes <;> cases closes <;> rfl
  · rintro rfl
    exact ofCloser?_closer kind

/-- No character both opens and closes. -/
theorem ofCloser?_opener (kind : Delimiter) : ofCloser? kind.opener = none := by
  cases kind <;> rfl

theorem opener_ne_closer (kind : Delimiter) : kind.opener ≠ kind.closer := by
  cases kind <;> decide

end Delimiter

/-- How many groups of each kind are open. -/
structure Nesting where
  parens : Nat := 0
  braces : Nat := 0
  brackets : Nat := 0
  deriving DecidableEq, Repr

namespace Nesting

/-- The number of open groups of one kind. -/
def count (nesting : Nesting) : Delimiter → Nat
  | .paren => nesting.parens
  | .brace => nesting.braces
  | .bracket => nesting.brackets

/-- The number of open groups of all kinds. -/
def depth (nesting : Nesting) : Nat :=
  nesting.parens + nesting.braces + nesting.brackets

/-- Open one more group. -/
def enter (nesting : Nesting) : Delimiter → Nesting
  | .paren => { nesting with parens := nesting.parens + 1 }
  | .brace => { nesting with braces := nesting.braces + 1 }
  | .bracket => { nesting with brackets := nesting.brackets + 1 }

/-- Close one group; closing what is not open changes nothing. -/
def leave (nesting : Nesting) : Delimiter → Nesting
  | .paren => { nesting with parens := nesting.parens - 1 }
  | .brace => { nesting with braces := nesting.braces - 1 }
  | .bracket => { nesting with brackets := nesting.brackets - 1 }

/-- Read one character of code. -/
def feed (nesting : Nesting) (character : Char) : Nesting :=
  match Delimiter.ofOpener? character with
  | some kind => nesting.enter kind
  | none =>
    match Delimiter.ofCloser? character with
    | some kind => nesting.leave kind
    | none => nesting

@[simp]
theorem count_enter (nesting : Nesting) (kind other : Delimiter) :
    (nesting.enter kind).count other = nesting.count other + if kind = other then 1 else 0 := by
  cases kind <;> cases other <;> simp [enter, count]

@[simp]
theorem count_leave (nesting : Nesting) (kind other : Delimiter) :
    (nesting.leave kind).count other = nesting.count other - if kind = other then 1 else 0 := by
  cases kind <;> cases other <;> simp [leave, count]

/-- An opener adds one to the count of its kind, and a closer takes one away if there is one. -/
theorem count_feed (nesting : Nesting) (character : Char) (kind : Delimiter) :
    (nesting.feed character).count kind = nesting.count kind +
      (if character = kind.opener then 1 else 0) - (if character = kind.closer then 1 else 0) := by
  simp only [← Delimiter.ofOpener?_eq_some_iff, ← Delimiter.ofCloser?_eq_some_iff, feed]
  cases opens : Delimiter.ofOpener? character with
  | some opened =>
    obtain rfl := Delimiter.ofOpener?_eq_some_iff.mp opens
    simp [Delimiter.ofCloser?_opener]
  | none => cases Delimiter.ofCloser? character <;> simp

/-- The depth is the sum of the three counts. -/
theorem depth_eq_sum (nesting : Nesting) :
    nesting.depth = nesting.count .paren + nesting.count .brace + nesting.count .bracket :=
  rfl

/-- Two nestings with the same counts are the same. -/
theorem ext_count {left right : Nesting} (counts : ∀ kind, left.count kind = right.count kind) :
    left = right := by
  cases left
  cases right
  have parens := counts .paren
  have braces := counts .brace
  have brackets := counts .bracket
  simp only [count] at parens braces brackets
  subst parens braces brackets
  rfl

end Nesting

end RouteCatalog
