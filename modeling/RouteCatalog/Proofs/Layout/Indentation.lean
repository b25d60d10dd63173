import RouteCatalog.Proofs.Layout.Composition
import RouteCatalog.Proofs.Layout.LaidOut

/-!
# Layouts are indented by depth

What a composition has written is laid out, up to the blanks that wait at its end for the lexeme behind
them: one step for each lexeme keeps that (`Composition.Lays.feed`). Where literals are closed on their
lines, tidying takes off the waiting blanks and nothing else, so the lines of a layout are indented by
their levels: `lines_layoutWithin`.
-/

namespace RouteCatalog

open LexemeReader

/-- What is composed, in three parts: a line feed before a closer at the beginning, what is laid out,
and the blanks that wait at its end. Blanks wait only where they mean nothing. -/
structure Composition.Lays (indent : Nat) (composition : Composition) (reader : LexemeReader)
    (lead core tail : Text) : Prop where
  parts : composition.written.reverse = lead ++ core ++ tail
  laid : LaidOut indent core
  literal : (DepthReader.start.read core).literal.Alike reader.literal
  level : composition.level = runningDepth core
  begins : lead = [] ∨ lead = ['\n']
  empty : core = [] → lead = [] ∧ tail = []
  waiting : tail = [] ∨ reader.margin = .bare ∧
    (tail = [' '] ∨ tail = (LayoutState.newLine indent composition.level).reverse)
  inside : reader.literal.isOpen = true → reader.margin = .word
  word : reader.margin ≠ .bare → core ≠ []

/-- How many groups are open behind one more character outside literals. -/
theorem runningDepth_concat {text gap : Text} {character : Char}
    (outside : endsInLiteral text = false) (blank : gap.isBlankText = true) :
    runningDepth (text ++ gap ++ [character]) =
      if Delimiter.isOpener character then runningDepth text + 1
      else if Delimiter.isCloser character then runningDepth text - 1
      else runningDepth text := by
  obtain ⟨sameLiteral, sameDepth⟩ := (DepthReader.start.read text).read_blank blank
  have still := sameLiteral.trans outside
  simp only [runningDepth, DepthReader.read_append]
  simp only [DepthReader.read, List.foldl_cons, List.foldl_nil] at still sameDepth ⊢
  simp [DepthReader.feed, still, sameDepth]

namespace Composition.Lays

variable {indent : Nat} {composition : Composition} {reader : LexemeReader}
variable {lead core tail : Text} {character : Char}

theorem endsInLiteral_eq (lays : Lays indent composition reader lead core tail) :
    endsInLiteral core = reader.literal.isOpen :=
  lays.literal.isOpen_eq

/-- A character of a literal is laid out as it is. -/
theorem put_inside (lays : Lays indent composition reader lead core tail)
    (inside : reader.literal.isOpen = true) (noFeed : character ≠ '\n') :
    Lays indent (composition.put indent ⟨character, true, false⟩) (reader.feed character) lead
      (core ++ [character]) [] := by
  have opened : endsInLiteral core = true := lays.endsInLiteral_eq.trans inside
  have settled : tail = [] := lays.waiting.resolve_right fun waiting => by
    simp [lays.inside inside] at waiting
  have margin : (reader.feed character).margin = .word := by simp [LexemeReader.feed, inside]
  refine ⟨?_, .quoted lays.laid opened noFeed, ?_, ?_, lays.begins, by simp, .inl rfl,
    fun _ => margin, by simp⟩
  · simp [Composition.put, lays.parts, settled]
  · rw [DepthReader.read_append]
    exact lays.literal.feed character
  · have same : ((DepthReader.start.read core).feed character).depth = runningDepth core := by
      simp only [DepthReader.feed]
      rw [endsInLiteral] at opened
      simp [opened, runningDepth]
    rw [runningDepth, DepthReader.read_append]
    exact lays.level.trans same.symm

/-- A blank outside literals writes nothing. -/
theorem feed_blank (lays : Lays indent composition reader lead core tail)
    (outside : reader.literal.isOpen = false) (blank : isBlank character = true) :
    Lays indent composition (reader.feed character) lead core tail := by
  have still : (reader.feed character).literal.isOpen = false := by
    rw [isOpen_feed_blank blank, outside]
  have bare : (reader.feed character).margin = .bare ↔ reader.margin = .bare := by
    simp only [LexemeReader.feed, outside, blank, Bool.false_eq_true, if_false, if_true]
    cases reader.margin <;> simp [Margin.afterBlank]
  refine ⟨lays.parts, lays.laid, .of_not_isOpen (lays.endsInLiteral_eq.trans outside) still,
    lays.level, lays.begins, lays.empty, ?_, by simp [still],
    fun margin => lays.word (margin ∘ bare.mpr)⟩
  exact lays.waiting.imp_right fun waiting => ⟨bare.mpr waiting.1, waiting.2⟩

/-- The waiting blanks are blank. -/
theorem blank_tail (lays : Lays indent composition reader lead core tail) :
    tail.isBlankText = true := by
  rcases lays.waiting with rfl | ⟨-, rfl | rfl⟩
  · rfl
  · decide
  · exact LayoutState.isBlankText_newLine _ _

/-- Trimming what is composed takes off the waiting blanks. -/
theorem trimmed (lays : Lays indent composition reader lead core tail)
    (outside : reader.literal.isOpen = false) :
    (composition.written.dropWhile isBlank).reverse = lead ++ core := by
  have dropped : Text.trimEnd (lead ++ core ++ tail) = Text.trimEnd (lead ++ core) :=
    Text.trimEnd_append_of_blank lays.blank_tail
  have trimmed : (composition.written.dropWhile isBlank).reverse = Text.trimEnd (lead ++ core) := by
    rw [← dropped, ← lays.parts, Text.trimEnd, List.reverse_reverse]
  rw [trimmed]
  rcases List.eq_nil_or_concat core with rfl | ⟨before, last, rfl⟩
  · simp [(lays.empty rfl).1, Text.trimEnd]
  · have mark := lays.laid.last_mark (lays.endsInLiteral_eq.trans outside) last (by simp)
    simp [Text.trimEnd, mark]

/-- A character outside literals is laid out behind a gap, and leaves blanks waiting. -/
theorem of_mark {level : Nat} {written front gap waiting : Text}
    (lays : Lays indent composition reader lead core tail)
    (outside : reader.literal.isOpen = false) (mark : isBlank character = false)
    (begins : front = [] ∨ front = ['\n']) (between : IsGap indent core character gap)
    (depth : level = if Delimiter.isOpener character then runningDepth core + 1
      else if Delimiter.isCloser character then runningDepth core - 1 else runningDepth core)
    (behind : waiting = [] ∨ leansRight character = true ∧
      (waiting = [' '] ∨ waiting = (LayoutState.newLine indent level).reverse))
    (parts : written.reverse = front ++ (core ++ gap ++ [character]) ++ waiting) :
    Lays indent ⟨written, level⟩ (reader.feed character) front (core ++ gap ++ [character])
      waiting := by
  have closed : endsInLiteral core = false := lays.endsInLiteral_eq.trans outside
  have still : (DepthReader.start.read (core ++ gap)).literal.isOpen = false := by
    rw [DepthReader.read_append]
    exact (DepthReader.read_blank _ between.blank).1.trans closed
  have margin : (reader.feed character).margin = .after character := by
    simp [LexemeReader.feed, outside, mark]
  refine ⟨parts, .word lays.laid closed mark between, ?_,
    depth.trans (runningDepth_concat closed between.blank).symm, begins, by simp, ?_,
    margin_feed_of_isOpen, by simp⟩
  · rw [DepthReader.read_append]
    exact (Literal.Alike.of_not_isOpen still outside).feed character
  · exact behind.imp_right fun waits => ⟨by rw [margin, Margin.after, if_pos waits.1], waits.2⟩

/-- What stands between what is laid out and a character that leaves the blanks before it alone: the
waiting blanks, or the space of a gap. -/
theorem exists_gap (lays : Lays indent composition reader lead core tail)
    (other : Delimiter.isCloser character = false) :
    ∃ gap, IsGap indent core character gap ∧
      (if reader.margin = .gap then ' ' :: composition.written else composition.written).reverse =
        lead ++ (core ++ gap) := by
  have nonempty (waits : tail ≠ []) : core ≠ [] := fun nothing => waits (lays.empty nothing).2
  by_cases gap : reader.margin = .gap
  · have settled : tail = [] := lays.waiting.resolve_right fun waiting => by simp [gap] at waiting
    exact ⟨[' '], .space (lays.word (by simp [gap])), by simp [gap, lays.parts, settled]⟩
  · refine ⟨tail, ?_, by simp [gap, lays.parts]⟩
    rcases lays.waiting with rfl | ⟨-, rfl | rfl⟩
    · exact .none
    · exact .space (nonempty (by simp))
    · have here : lineLevel core character = composition.level := by
        simp [lineLevel, other, lays.level]
      have line : IsGap indent core character
          ('\n' :: List.replicate (indent * lineLevel core character) ' ') :=
        .line (nonempty (by simp [LayoutState.newLine]))
      rw [here] at line
      simpa [LayoutState.newLine] using line

/-- Any other character outside literals is laid out on the line where it belongs. -/
theorem put_mark (lays : Lays indent composition reader lead core tail)
    (outside : reader.literal.isOpen = false) (mark : isBlank character = false) :
    ∃ lead core tail, Lays indent
      (composition.put indent ⟨character, false, reader.margin == .gap && !leansLeft character⟩)
      (reader.feed character) lead core tail := by
  have trimmed := lays.trimmed outside
  have level := lays.level
  have puts := composition.puts_put indent
    ⟨character, false, reader.margin == .gap && !leansLeft character⟩ rfl
  generalize composition.put indent
    ⟨character, false, reader.margin == .gap && !leansLeft character⟩ = next at puts
  cases puts with
  | closer closes opens left right =>
    by_cases nothing : core = []
    · -- A closer at the beginning stands on a line of its own, with nothing before it.
      subst nothing
      obtain ⟨rfl, rfl⟩ := lays.empty rfl
      refine ⟨['\n'], _, [], lays.of_mark outside mark (.inr rfl) .none
        (by simp [level, opens, closes]) (.inl rfl) ?_⟩
      have depth : composition.level = 0 := level
      simp [trimmed, depth, LayoutState.newLine]
    · refine ⟨lead, _, [], lays.of_mark outside mark lays.begins (.line nothing)
        (by simp [level, opens, closes]) (.inl rfl) ?_⟩
      simp [trimmed, level, LayoutState.newLine, lineLevel, closes]
  | separator closes opens left right =>
    refine ⟨lead, _, _, lays.of_mark outside mark lays.begins .none
      (by simp [level, opens, closes]) (.inr ⟨right, .inr rfl⟩) ?_⟩
    simp [trimmed]
  | colon closes opens left right =>
    refine ⟨lead, _, _, lays.of_mark outside mark lays.begins .none
      (by simp [level, opens, closes]) (.inr ⟨right, .inl rfl⟩) ?_⟩
    simp [trimmed]
  | opener closes opens left right =>
    obtain ⟨gap, between, before⟩ := lays.exists_gap closes
    rw [← Composition.before_eq_of_gap left] at before
    refine ⟨lead, _, _, lays.of_mark outside mark lays.begins between (by simp [level, opens])
      (.inr ⟨right, .inr rfl⟩) ?_⟩
    simp [before]
  | word closes opens left right =>
    obtain ⟨gap, between, before⟩ := lays.exists_gap closes
    rw [← Composition.before_eq_of_gap left] at before
    refine ⟨lead, _, [], lays.of_mark outside mark lays.begins between
      (by simp [level, opens, closes]) (.inl rfl) ?_⟩
    simp [before]

/-- One character is laid out. -/
theorem feed (lays : Lays indent composition reader lead core tail) (character : Char)
    (onLine : ¬(reader.literal.isOpen = true ∧ character = '\n')) :
    ∃ lead core tail, Lays indent
      ((reader.lexeme? character).toList.foldl (Composition.put indent) composition)
      (reader.feed character) lead core tail := by
  unfold lexeme?
  cases inside : reader.literal.isOpen with
  | true => exact ⟨_, _, _, lays.put_inside inside fun feed => onLine ⟨inside, feed⟩⟩
  | false =>
    cases blank : isBlank character with
    | true => exact ⟨_, _, _, lays.feed_blank inside blank⟩
    | false => exact lays.put_mark inside blank

/-- A whole text is laid out. -/
theorem compose (indent : Nat) {text : Text} (whole : hasWholeLiterals text = true) :
    ∃ lead core tail, Lays indent ((lexemesOf text).foldl (Composition.put indent) {})
      (start.read text) lead core tail := by
  suffices general : ∀ composition (reader : LexemeReader) lead core tail,
      Lays indent composition reader lead core tail → reader.literal.staysOnLine text = true →
      ∃ lead core tail, Lays indent
        ((reader.lexemes text).foldl (Composition.put indent) composition) (reader.read text)
        lead core tail from
    general {} .start [] [] [] ⟨rfl, .empty, ⟨rfl, nofun⟩, rfl, .inl rfl, fun _ => ⟨rfl, rfl⟩,
      .inl rfl, nofun, fun margin => absurd rfl margin⟩ whole
  clear whole
  induction text with
  | nil => exact fun _ _ _ _ _ lays _ => ⟨_, _, _, lays⟩
  | cons character rest inductionHypothesis =>
    intro composition reader lead core tail lays whole
    simp only [Literal.staysOnLine, Bool.and_eq_true, Bool.not_eq_true', Bool.and_eq_false_iff,
      beq_eq_false_iff_ne] at whole
    obtain ⟨_, _, _, next⟩ := lays.feed character (by
      rintro ⟨inside, feed⟩
      simp [inside, feed] at whole)
    rw [LexemeReader.lexemes, List.foldl_append]
    exact inductionHypothesis _ _ _ _ _ next whole.2

end Composition.Lays

/-- A layout is a text that is laid out. -/
theorem laidOut_layout (indent : Int) {text : Text} (whole : hasWholeLiterals text = true) :
    LaidOut indent.toNat (layout indent text) ∧ endsInLiteral (layout indent text) = false := by
  obtain ⟨lead, core, tail, lays⟩ := Composition.Lays.compose indent.toNat whole
  have closed : endsInLiteral core = false := by
    have told := start.staysOnLine_eq text
    rw [show start.literal.staysOnLine text = true from whole] at told
    rw [lays.endsInLiteral_eq]
    simpa using (Bool.and_eq_true_iff.mp told.symm).2
  suffices same : layout indent text = core from same ▸ ⟨lays.laid, closed⟩
  rw [layout_eq_compose, compose, lays.parts, tidyLines_append_of_blank _ lays.blank_tail]
  by_cases nothing : core = []
  · rw [nothing, (lays.empty nothing).1]
    rfl
  · have lines := lays.laid.trimLines_eq closed nothing
    have trimmed := (lays.laid.isTrimmed closed nothing).trim_eq
    rcases lays.begins with rfl | rfl
    · exact (congrArg Text.trim lines).trans trimmed
    · have behind : Text.trimLines ('\n' :: core) = '\n' :: core := by
        rw [← List.nil_append ('\n' :: core), Text.trimLines_append_feed, lines]
        rfl
      have kept : Text.trim (['\n'] ++ core) = core.trim := Text.trim_blank_append (by decide) core
      exact (congrArg Text.trim behind).trans (kept.trans trimmed)

/-- There is a layout for every indent of 64 bits, and every line of it is indented by its level: it
begins with as many spaces as the level says, directly before a character that is no blank, and does not
end with a blank. -/
theorem lines_layoutWithin {indent : Int} {text : Text} (whole : hasWholeLiterals text = true)
    (inRange : -0x8000000000000000 ≤ indent ∧ indent < 0x8000000000000000) :
    ∃ laidOut, layoutWithin indent text = .ok laidOut ∧ (laidOut ≠ [] →
      ∀ front line back, IsLine laidOut front line back → IsIndented indent.toNat front line) := by
  obtain ⟨laid, outside⟩ := laidOut_layout indent whole
  exact ⟨layout indent text, layoutWithin_of_inRange inRange text,
    fun nonempty _ _ _ isLine => laid.isIndented outside nonempty isLine⟩

/-- A line with a literal, in a group that a surplus closer follows. -/
theorem lines_layoutWithin_surplus :
    ∃ laidOut, layoutWithin 2 "a :\x7b b , 'c ;'\x7d )".toList = .ok laidOut ∧
      IsLine laidOut "a: \x7b\n  b,\n".toList "  'c ;'".toList "\n\x7d\n)".toList ∧
      IsIndented 2 "a: \x7b\n  b,\n".toList "  'c ;'".toList := by
  obtain ⟨laidOut, found, indented⟩ : ∃ laidOut,
      layoutWithin 2 "a :\x7b b , 'c ;'\x7d )".toList = .ok laidOut ∧ (laidOut ≠ [] →
        ∀ front line back, IsLine laidOut front line back → IsIndented 2 front line) :=
    lines_layoutWithin (by decide) (by decide)
  have known : layoutWithin 2 "a :\x7b b , 'c ;'\x7d )".toList =
      .ok "a: \x7b\n  b,\n  'c ;'\n\x7d\n)".toList := by decide
  obtain rfl := Except.ok.inj (known.symm.trans found)
  have isLine : IsLine "a: \x7b\n  b,\n  'c ;'\n\x7d\n)".toList "a: \x7b\n  b,\n".toList
      "  'c ;'".toList "\n\x7d\n)".toList :=
    ⟨by decide, by decide, .inr (by decide), .inr (by decide)⟩
  exact ⟨_, found, isLine, indented (by decide) _ _ _ isLine⟩

/-- An indent that is no 64-bit integer gives no layout, and so no lines of one. -/
theorem not_lines_layoutWithin_beyondRange :
    hasWholeLiterals "string".toList = true ∧
      ¬∃ laidOut, layoutWithin 0x8000000000000000 "string".toList = .ok laidOut ∧ (laidOut ≠ [] →
        ∀ front line back, IsLine laidOut front line back →
          IsIndented 0x8000000000000000 front line) := by
  refine ⟨by decide, ?_⟩
  rintro ⟨laidOut, found, -⟩
  exact absurd (layoutWithin_eq_ok_iff.mp found).1 (by decide)

end RouteCatalog
