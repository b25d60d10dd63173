import RouteCatalog.Proofs.Layout.Lexeme
import RouteCatalog.Layout

/-!
# Layouts and lexemes

A layout depends on the lexemes of a text only: `layout_eq_compose` says that writing the lexemes one
by one, with a space before those that are spaced, gives the layout of the text.
-/

namespace RouteCatalog

/-- A layout in progress: what is written, last character first, and the number of open groups. -/
structure Composition where
  written : Text := []
  level : Nat := 0
  deriving DecidableEq, Repr

namespace Composition

/-- What is written before a lexeme that does not lean left. -/
def before (composition : Composition) (lexeme : Lexeme) : Text :=
  if lexeme.spaced then ' ' :: composition.written else composition.written

/-- Write one lexeme. -/
def put (indent : Nat) (composition : Composition) (lexeme : Lexeme) : Composition :=
  let character := lexeme.character
  let level := composition.level
  let trimmed := composition.written.dropWhile isBlank
  if lexeme.quoted then { composition with written := character :: composition.written }
  else if Delimiter.isCloser character then
    ⟨character :: LayoutState.newLine indent (level - 1) ++ trimmed, level - 1⟩
  else if isRowSeparator character then
    ⟨LayoutState.newLine indent level ++ character :: trimmed, level⟩
  else if character = ':' then ⟨' ' :: character :: trimmed, level⟩
  else if Delimiter.isOpener character then
    ⟨LayoutState.newLine indent (level + 1) ++ character :: composition.before lexeme, level + 1⟩
  else ⟨character :: composition.before lexeme, level⟩

/-- What is composed with a lexeme outside literals, for each kind of character: which groups it closes
or opens, and on which sides of it blanks mean nothing. -/
inductive Puts (indent : Nat) (composition : Composition) (lexeme : Lexeme) : Composition → Prop where
  | closer (closes : Delimiter.isCloser lexeme.character = true)
      (opens : Delimiter.isOpener lexeme.character = false)
      (left : leansLeft lexeme.character = true) (right : leansRight lexeme.character = false) :
      Puts indent composition lexeme
        ⟨lexeme.character :: LayoutState.newLine indent (composition.level - 1) ++
          composition.written.dropWhile isBlank, composition.level - 1⟩
  | separator (closes : Delimiter.isCloser lexeme.character = false)
      (opens : Delimiter.isOpener lexeme.character = false)
      (left : leansLeft lexeme.character = true) (right : leansRight lexeme.character = true) :
      Puts indent composition lexeme
        ⟨LayoutState.newLine indent composition.level ++
          lexeme.character :: composition.written.dropWhile isBlank, composition.level⟩
  | colon (closes : Delimiter.isCloser lexeme.character = false)
      (opens : Delimiter.isOpener lexeme.character = false)
      (left : leansLeft lexeme.character = true) (right : leansRight lexeme.character = true) :
      Puts indent composition lexeme
        ⟨' ' :: lexeme.character :: composition.written.dropWhile isBlank, composition.level⟩
  | opener (closes : Delimiter.isCloser lexeme.character = false)
      (opens : Delimiter.isOpener lexeme.character = true)
      (left : leansLeft lexeme.character = false) (right : leansRight lexeme.character = true) :
      Puts indent composition lexeme
        ⟨LayoutState.newLine indent (composition.level + 1) ++
          lexeme.character :: composition.before lexeme, composition.level + 1⟩
  | word (closes : Delimiter.isCloser lexeme.character = false)
      (opens : Delimiter.isOpener lexeme.character = false)
      (left : leansLeft lexeme.character = false) (right : leansRight lexeme.character = false) :
      Puts indent composition lexeme
        ⟨lexeme.character :: composition.before lexeme, composition.level⟩

/-- Closers do not lean right. -/
theorem leansRight_of_isCloser {character : Char} (closes : Delimiter.isCloser character = true) :
    leansRight character = false := by
  unfold Delimiter.isCloser Delimiter.ofCloser? at closes
  split at closes <;> first | decide | cases closes

/-- Separators open no groups. -/
theorem isOpener_of_isRowSeparator {character : Char} (separates : isRowSeparator character = true) :
    Delimiter.isOpener character = false := by
  simp only [isRowSeparator, Bool.or_eq_true, beq_iff_eq] at separates
  rcases separates with rfl | rfl <;> decide

/-- Every lexeme outside literals is of one of the kinds. -/
theorem puts_put (indent : Nat) (composition : Composition) (lexeme : Lexeme)
    (outside : lexeme.quoted = false) :
    Puts indent composition lexeme (composition.put indent lexeme) := by
  simp only [put, outside, Bool.false_eq_true, if_false]
  split
  · rename_i closes
    have right := leansRight_of_isCloser closes
    have opens : Delimiter.isOpener lexeme.character = false := by
      simp only [leansRight, Bool.or_eq_false_iff] at right
      exact right.1.1
    exact .closer closes opens (by simp [leansLeft, closes]) right
  split
  · rename_i other separates
    exact .separator (Bool.eq_false_iff.mpr other) (isOpener_of_isRowSeparator separates)
      (by simp [leansLeft, separates]) (by simp [leansRight, separates])
  split
  · rename_i other _ colon
    exact .colon (Bool.eq_false_iff.mpr other) (by rw [colon]; decide) (by rw [colon]; decide)
      (by rw [colon]; decide)
  split
  · rename_i closes separates colon opens
    exact .opener (Bool.eq_false_iff.mpr closes) opens (by simp [leansLeft, closes, separates, colon])
      (by simp [leansRight, opens])
  · rename_i closes separates colon opens
    exact .word (Bool.eq_false_iff.mpr closes) (Bool.eq_false_iff.mpr opens)
      (by simp [leansLeft, closes, separates, colon])
      (by simp [leansRight, opens, separates, colon])

/-- Before a character that does not lean left, a space is written where a gap is read. -/
theorem before_eq_of_gap {composition : Composition} {character : Char} {margin : Margin}
    (left : leansLeft character = false) :
    composition.before ⟨character, false, margin == .gap && !leansLeft character⟩ =
      if margin = .gap then ' ' :: composition.written else composition.written := by
  simp [before, left]

end Composition

/-- Write lexemes over several lines. -/
def compose (indent : Int) (lexemes : List Lexeme) : Text :=
  tidyLines (lexemes.foldl (Composition.put indent.toNat) {}).written.reverse

/-- Does the text, last character first, end where no space is to be written? -/
def EndsBlank (written : Text) : Prop :=
  ∀ last ∈ written.head?, last = ' ' ∨ last = '\n'

/-- Does the text, last character first, end with other than a blank? -/
def EndsWord (written : Text) : Prop :=
  ∃ last before, written = last :: before ∧ isBlank last = false

/-- A new line ends where no space is to be written. -/
theorem endsBlank_newLine (indent level : Nat) (written : Text) :
    EndsBlank (LayoutState.newLine indent level ++ written) := by
  cases width : indent * level with
  | zero => simp [EndsBlank, LayoutState.newLine, width]
  | succ width => simp [EndsBlank, LayoutState.newLine, width, List.replicate_succ]

/-- What is composed ends as its last character wants it. -/
theorem Composition.Puts.ends {indent : Nat} {composition next : Composition} {lexeme : Lexeme}
    (puts : composition.Puts indent lexeme next) (mark : isBlank lexeme.character = false) :
    if leansRight lexeme.character then EndsBlank next.written else EndsWord next.written := by
  cases puts with
  | closer closes opens left right => simp [right, EndsWord, mark]
  | separator closes opens left right => simp [right, endsBlank_newLine]
  | colon closes opens left right => simp [right, EndsBlank]
  | opener closes opens left right => simp [right, endsBlank_newLine]
  | word closes opens left right => simp [right, EndsWord, mark]

namespace LayoutState

/-- New lines are blank. -/
theorem isBlankText_newLine (indent level : Nat) :
    Text.isBlankText (newLine indent level).reverse = true := by
  simp [Text.isBlankText, newLine]

/-- The state of a layout, after a reader's lexemes have been composed. -/
structure Follows (state : LayoutState) (reader : LexemeReader) (composition : Composition) :
    Prop where
  literal : state.literal = reader.literal
  written : state.written = composition.written
  level : state.level = composition.level
  pending : reader.margin ≠ .bare → (state.pendingSpace = true ↔ reader.margin = .gap)
  inside : reader.literal.isOpen = true → reader.margin = .word
  bare : reader.margin = .bare → EndsBlank state.written
  word : reader.margin ≠ .bare → reader.literal.isOpen = false → EndsWord state.written

section Feed

variable {state : LayoutState} {reader : LexemeReader} {composition : Composition}
variable {character : Char}

/-- A space is written exactly where the reader finds a gap. -/
theorem Follows.spaced (follows : Follows state reader composition)
    (outside : reader.literal.isOpen = false) :
    state.spaced = if reader.margin = .gap then ' ' :: composition.written
      else composition.written := by
  rw [← follows.written]
  cases margin : reader.margin with
  | bare =>
    have blank := follows.bare margin
    unfold LayoutState.spaced
    cases found : state.written with
    | nil => simp
    | cons last before =>
      have ends := blank last (by simp [found])
      simp [ends]
  | word =>
    have none : state.pendingSpace = false := by
      simpa [margin] using follows.pending (by simp [margin])
    simp [LayoutState.spaced, none]
  | gap =>
    have pending : state.pendingSpace = true := by
      simpa [margin] using follows.pending (by simp [margin])
    obtain ⟨last, before, found, mark⟩ := follows.word (by simp [margin]) outside
    have other : ¬(last = ' ' ∨ last = '\n') := by
      rintro (rfl | rfl) <;> exact absurd mark (by decide)
    simp [LayoutState.spaced, pending, found, other]

/-- Writing a character outside literals keeps the two together if the end of what is written is as
the character wants it. -/
theorem Follows.of_mark {next : LayoutState} {written : Composition}
    (outside : reader.literal.isOpen = false) (mark : isBlank character = false)
    (literal : next.literal = reader.literal.feed character) (settled : next.pendingSpace = false)
    (same : next.written = written.written) (level : next.level = written.level)
    (ends : if leansRight character then EndsBlank next.written else EndsWord next.written) :
    Follows next (reader.feed character) written := by
  have margin : (reader.feed character).margin = if leansRight character then .bare else .word := by
    simp [LexemeReader.feed, outside, mark, Margin.after]
  cases leans : leansRight character with
  | true =>
    have still : (reader.feed character).literal.isOpen = false := by
      rw [LexemeReader.isOpen_feed_of_leansRight leans, outside]
    rw [leans, if_pos rfl] at margin ends
    exact ⟨literal, same, level, fun other => absurd margin other, by simp [still], fun _ => ends,
      fun other => absurd margin other⟩
  | false =>
    simp only [leans, Bool.false_eq_true, if_false] at margin ends
    exact ⟨literal, same, level, by simp [settled, margin], fun _ => margin, by simp [margin],
      fun _ _ => ends⟩

/-- A character of a literal is copied. -/
theorem Follows.feed_inside (follows : Follows state reader composition) (indent : Nat)
    (inside : reader.literal.isOpen = true) :
    Follows (state.feed indent character) (reader.feed character)
      (composition.put indent ⟨character, true, false⟩) := by
  have opened : state.literal.isOpen = true := by rw [follows.literal, inside]
  have margin := follows.inside inside
  have settled : state.pendingSpace = false := by
    simpa [margin] using follows.pending (by simp [margin])
  have next : (reader.feed character).margin = .word := by simp [LexemeReader.feed, inside]
  have copied : state.feed indent character = { state with
      written := character :: state.written, literal := state.literal.feed character } := by
    simp [LayoutState.feed, opened]
  rw [copied]
  refine ⟨by rw [follows.literal]; rfl, by simp [Composition.put, follows.written], follows.level,
    by simp [settled, next], fun _ => next, by simp [next], fun _ closed => ?_⟩
  refine ⟨_, _, rfl, Bool.eq_false_iff.mpr fun blank => ?_⟩
  rw [LexemeReader.isOpen_feed_blank blank, inside] at closed
  cases closed

/-- A blank outside literals is remembered and not written. -/
theorem Follows.feed_blank (follows : Follows state reader composition) (indent : Nat)
    (outside : reader.literal.isOpen = false) (blank : isBlank character = true) :
    Follows (state.feed indent character) (reader.feed character) composition := by
  have closed : state.literal.isOpen = false := by rw [follows.literal, outside]
  have next : (reader.feed character).margin = reader.margin.afterBlank := by
    simp [LexemeReader.feed, outside, blank]
  have bare : reader.margin.afterBlank = .bare ↔ reader.margin = .bare := by
    cases reader.margin <;> simp [Margin.afterBlank]
  have still : (reader.feed character).literal.isOpen = false := by
    rw [LexemeReader.isOpen_feed_blank blank, outside]
  have remembered : state.feed indent character =
      { state with pendingSpace := true, literal := state.literal.feed character } := by
    simp [LayoutState.feed, closed, blank]
  rw [remembered]
  refine ⟨by rw [follows.literal]; rfl, follows.written, follows.level, ?_, by simp [still], ?_,
    ?_⟩ <;> rw [next]
  · cases reader.margin <;> simp [Margin.afterBlank]
  · exact fun margin => follows.bare (bare.mp margin)
  · exact fun margin _ => follows.word (margin ∘ bare.mpr) outside

/-- Any other character outside literals is written as its lexeme is, and no blank before it counts
any more. -/
theorem Follows.feed_eq_put (follows : Follows state reader composition) (indent : Nat)
    (outside : reader.literal.isOpen = false) (mark : isBlank character = false) :
    state.feed indent character =
      let next := composition.put indent
        ⟨character, false, reader.margin == .gap && !leansLeft character⟩
      ⟨next.written, next.level, state.literal.feed character, false⟩ := by
  have closed : state.literal.isOpen = false := by rw [follows.literal, outside]
  have separator : (character = ',' ∨ character = ';') ↔ isRowSeparator character = true := by
    simp [isRowSeparator]
  have trimmed : state.trimmed = composition.written.dropWhile isBlank := by
    rw [LayoutState.trimmed, follows.written]
  simp only [LayoutState.feed, closed, mark, separator, Bool.false_eq_true, if_false,
    Composition.put, ← follows.level, trimmed, follows.spaced outside]
  cases closes : Delimiter.isCloser character with
  | true => rfl
  | false =>
  cases separates : isRowSeparator character with
  | true => rfl
  | false =>
  by_cases colon : character = ':'
  · simp [colon]
  · have left : leansLeft character = false := by simp [leansLeft, closes, separates, colon]
    rw [Composition.before_eq_of_gap left]
    cases Delimiter.isOpener character <;> simp [colon]

/-- Any other character outside literals keeps the two together, and they end as it wants it. -/
theorem Follows.feed_mark (follows : Follows state reader composition) (indent : Nat)
    (outside : reader.literal.isOpen = false) (mark : isBlank character = false) :
    Follows (state.feed indent character) (reader.feed character)
      (composition.put indent ⟨character, false, reader.margin == .gap && !leansLeft character⟩) := by
  have literal : state.literal.feed character = reader.literal.feed character := by
    rw [follows.literal]
  have puts := composition.puts_put indent
    ⟨character, false, reader.margin == .gap && !leansLeft character⟩ rfl
  rw [follows.feed_eq_put indent outside mark]
  exact .of_mark outside mark literal rfl rfl rfl (puts.ends mark)

/-- One character keeps a layout and the composition of its lexemes together. -/
theorem Follows.feed (follows : Follows state reader composition) (indent : Nat)
    (character : Char) :
    Follows (state.feed indent character) (reader.feed character)
      ((reader.lexeme? character).toList.foldl (Composition.put indent) composition) := by
  unfold LexemeReader.lexeme?
  cases inside : reader.literal.isOpen with
  | true => exact follows.feed_inside indent inside
  | false =>
    cases blank : isBlank character with
    | true => exact follows.feed_blank indent inside blank
    | false => exact follows.feed_mark indent inside blank

end Feed

end LayoutState

/-- A layout is the composition of the lexemes of the text. -/
theorem layout_eq_compose (indent : Int) (text : Text) :
    layout indent text = compose indent (lexemesOf text) := by
  suffices general : ∀ state reader composition, LayoutState.Follows state reader composition →
      (text.foldl (LayoutState.feed indent.toNat) state).written =
        ((reader.lexemes text).foldl (Composition.put indent.toNat) composition).written by
    have begins : LayoutState.Follows {} .start {} :=
      ⟨rfl, rfl, rfl, fun other => absurd rfl other, nofun, fun _ => nofun,
        fun other => absurd rfl other⟩
    rw [layout, compose, lexemesOf, general _ _ _ begins]
  induction text with
  | nil => exact fun state reader composition follows => follows.written
  | cons character rest inductionHypothesis =>
    intro state reader composition follows
    rw [List.foldl_cons, LexemeReader.lexemes, List.foldl_append]
    exact inductionHypothesis _ _ _ (follows.feed indent.toNat character)

end RouteCatalog
