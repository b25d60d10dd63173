import RouteCatalog.Proofs.Layout.Composition

/-!
# Layouts say what the text says

Composing the lexemes of a text and reading what is composed gives the lexemes back, and tidying the
lines keeps them where literals are closed on the line where they begin: `lexemesOf_layout`.
-/

namespace RouteCatalog

open LexemeReader

/-- What is composed is read as the lexemes, and leaves its reader where the text leaves its own. -/
structure Composition.Spells (composition : Composition) (reader : LexemeReader)
    (lexemes : List Lexeme) : Prop where
  same : start.lexemes composition.written.reverse = lexemes
  literal : (start.read composition.written.reverse).literal.Alike reader.literal
  margin : (start.read composition.written.reverse).margin = reader.margin.settled

namespace Composition.Spells

section Put

variable {composition : Composition} {reader : LexemeReader} {lexemes : List Lexeme}
variable {character : Char}

/-- A character of a literal is read as it is written. -/
theorem put_inside (spells : Spells composition reader lexemes) (indent : Nat)
    (inside : reader.literal.isOpen = true) :
    Spells (composition.put indent ⟨character, true, false⟩) (reader.feed character)
      (lexemes ++ [⟨character, true, false⟩]) := by
  have opened : (start.read composition.written.reverse).literal.isOpen = true := by
    rw [spells.literal.isOpen_eq, inside]
  have written : (composition.put indent ⟨character, true, false⟩).written.reverse =
      composition.written.reverse ++ [character] := by simp [Composition.put]
  refine ⟨?_, ?_, ?_⟩ <;> rw [written]
  · simp [lexemes_append, spells.same, LexemeReader.lexemes, lexeme?, opened]
  · rw [read_append]
    exact spells.literal.feed character
  · simp [read_append, feed, opened, inside, Margin.settled]

/-- A blank outside literals changes nothing about what is composed. -/
theorem feed_blank (spells : Spells composition reader lexemes)
    (outside : reader.literal.isOpen = false) (blank : isBlank character = true) :
    Spells composition (reader.feed character) lexemes := by
  have closed : (start.read composition.written.reverse).literal.isOpen = false := by
    rw [spells.literal.isOpen_eq, outside]
  refine ⟨spells.same, .of_not_isOpen closed ?_, ?_⟩
  · rw [isOpen_feed_blank blank, outside]
  · simp [spells.margin, feed, outside, blank]

/-- Any other character, written between blanks that mean nothing or what they mean before it, is read
as its lexeme. -/
theorem of_mark {front written : Text} {level : Nat} (lead tail : Text)
    (outside : reader.literal.isOpen = false) (mark : isBlank character = false)
    (same : start.lexemes front = lexemes) (closed : (start.read front).literal.isOpen = false)
    (blankLead : lead.isBlankText = true) (blankTail : tail.isBlankText = true)
    (spaced : leansLeft character = true ∨
      ((start.read (front ++ lead)).margin = .gap ↔ reader.margin = .gap))
    (trailing : tail = [] ∨ leansRight character = true)
    (parts : written.reverse = front ++ lead ++ character :: tail) :
    Spells ⟨written, level⟩ (reader.feed character)
      (lexemes ++ [⟨character, false, reader.margin == .gap && !leansLeft character⟩]) := by
  have still : (start.read (front ++ lead)).literal.isOpen = false := by
    rw [read_append, isOpen_read_blank blankLead, closed]
  have lexeme : (start.read (front ++ lead)).lexeme? character =
      some ⟨character, false, reader.margin == .gap && !leansLeft character⟩ := by
    simp only [lexeme?, still, mark, Bool.false_eq_true, if_false, Option.some.injEq,
      Lexeme.mk.injEq, true_and]
    rcases spaced with leans | gaps
    · simp [leans]
    · rw [Bool.eq_iff_iff]
      simp [gaps]
  have fed : Alike ((start.read (front ++ lead)).feed character) (reader.feed character) :=
    ⟨(Literal.Alike.of_not_isOpen still outside).feed character, by
      simp [feed, still, outside, mark]⟩
  have behind : Alike (((start.read (front ++ lead)).feed character).read tail)
      (reader.feed character) ∧
      ((start.read (front ++ lead)).feed character).lexemes tail = [] := by
    rcases trailing with rfl | leans
    · exact ⟨fed, rfl⟩
    · have closedBehind := (isOpen_feed_of_leansRight leans).trans still
      have bare : ((start.read (front ++ lead)).feed character).margin = .bare := by
        simp [feed, still, mark, Margin.after, leans]
      exact ⟨(alike_read_blank closedBehind bare blankTail).trans fed,
        lexemes_blank closedBehind blankTail⟩
  have settled : (reader.feed character).margin.settled = (reader.feed character).margin := by
    simp [feed, outside, mark]
  refine ⟨?_, ?_, ?_⟩ <;> rw [parts]
  · rw [lexemes_append, lexemes_append, same, lexemes_blank closed blankLead, LexemeReader.lexemes,
      lexeme, behind.2]
    simp
  · rw [read_append, read_cons]
    exact behind.1.literal
  · rw [read_append, read_cons, settled]
    exact behind.1.margin

/-- Blanks may be taken off the end of what is composed. -/
theorem trimmed (spells : Spells composition reader lexemes)
    (outside : reader.literal.isOpen = false) :
    start.lexemes (composition.written.dropWhile isBlank).reverse = lexemes ∧
      (start.read (composition.written.dropWhile isBlank).reverse).literal.isOpen = false := by
  have blank : Text.isBlankText (composition.written.takeWhile isBlank).reverse = true := by
    rw [Text.isBlankText, List.all_reverse]
    exact List.all_takeWhile
  have parts : composition.written.reverse = (composition.written.dropWhile isBlank).reverse ++
      (composition.written.takeWhile isBlank).reverse := by
    rw [← List.reverse_append, List.takeWhile_append_dropWhile]
  have closed := spells.literal.isOpen_eq.trans outside
  rw [parts, read_append, isOpen_read_blank blank] at closed
  refine ⟨?_, closed⟩
  rw [← spells.same, parts, lexemes_append, lexemes_blank closed blank, List.append_nil]

/-- What stands before a character that leaves the blanks before it alone means there what it means in
the text. -/
theorem exists_lead (spells : Spells composition reader lexemes)
    (outside : reader.literal.isOpen = false) (left : leansLeft character = false) :
    ∃ lead : Text, lead.isBlankText = true ∧
      ((start.read (composition.written.reverse ++ lead)).margin = .gap ↔ reader.margin = .gap) ∧
      composition.before ⟨character, false, reader.margin == .gap && !leansLeft character⟩ =
        lead.reverse ++ composition.written := by
  have front := spells.literal.isOpen_eq.trans outside
  rw [Composition.before_eq_of_gap left]
  cases margin : reader.margin with
  | gap =>
    refine ⟨[' '], by decide, ?_, rfl⟩
    rw [read_append, margin_read_blank front (by decide), spells.margin, margin]
    decide
  | word => exact ⟨[], rfl, by simp [spells.margin, margin, Margin.settled], rfl⟩
  | bare => exact ⟨[], rfl, by simp [spells.margin, margin, Margin.settled], rfl⟩

/-- Any other character outside literals is read as it is written. -/
theorem put_mark (spells : Spells composition reader lexemes) (indent : Nat)
    (outside : reader.literal.isOpen = false) (mark : isBlank character = false) :
    Spells (composition.put indent ⟨character, false, reader.margin == .gap && !leansLeft character⟩)
      (reader.feed character)
      (lexemes ++ [⟨character, false, reader.margin == .gap && !leansLeft character⟩]) := by
  obtain ⟨same, closed⟩ := spells.trimmed outside
  have front := spells.literal.isOpen_eq.trans outside
  have puts := composition.puts_put indent
    ⟨character, false, reader.margin == .gap && !leansLeft character⟩ rfl
  generalize composition.put indent
    ⟨character, false, reader.margin == .gap && !leansLeft character⟩ = next at puts
  cases puts with
  | closer closes opens left right =>
    exact of_mark (LayoutState.newLine indent (composition.level - 1)).reverse [] outside mark same
      closed (LayoutState.isBlankText_newLine _ _) rfl (.inl left) (.inl rfl) (by simp)
  | separator closes opens left right =>
    exact of_mark [] (LayoutState.newLine indent composition.level).reverse outside mark same closed
      rfl (LayoutState.isBlankText_newLine _ _) (.inl left) (.inr right) (by simp)
  | colon closes opens left right =>
    exact of_mark [] [' '] outside mark same closed rfl (by decide) (.inl left) (.inr right) (by simp)
  | opener closes opens left right =>
    obtain ⟨lead, blank, gaps, before⟩ := spells.exists_lead outside left
    exact of_mark lead (LayoutState.newLine indent (composition.level + 1)).reverse outside mark
      spells.same front blank (LayoutState.isBlankText_newLine _ _) (.inr gaps) (.inr right)
      (by simp [before])
  | word closes opens left right =>
    obtain ⟨lead, blank, gaps, before⟩ := spells.exists_lead outside left
    exact of_mark lead [] outside mark spells.same front blank rfl (.inr gaps) (.inl rfl)
      (by simp [before])

/-- One character is read as it is composed. -/
theorem feed (spells : Spells composition reader lexemes) (indent : Nat) (character : Char) :
    Spells ((reader.lexeme? character).toList.foldl (Composition.put indent) composition)
      (reader.feed character) (lexemes ++ (reader.lexeme? character).toList) := by
  unfold lexeme?
  cases inside : reader.literal.isOpen with
  | true => exact spells.put_inside indent inside
  | false =>
    cases blank : isBlank character with
    | true => simpa using spells.feed_blank inside blank
    | false => exact spells.put_mark indent inside blank

end Put

/-- A whole text is read as it is composed. -/
theorem compose (indent : Nat) (text : Text) :
    Spells ((lexemesOf text).foldl (Composition.put indent) {}) (start.read text)
      (lexemesOf text) := by
  suffices general : ∀ composition reader lexemes, Spells composition reader lexemes →
      Spells ((reader.lexemes text).foldl (Composition.put indent) composition) (reader.read text)
        (lexemes ++ reader.lexemes text) from
    general {} .start [] ⟨rfl, ⟨rfl, nofun⟩, rfl⟩
  induction text with
  | nil =>
    intro composition reader lexemes spells
    simpa [LexemeReader.lexemes] using spells
  | cons character rest inductionHypothesis =>
    intro composition reader lexemes spells
    rw [LexemeReader.lexemes, List.foldl_append, ← List.append_assoc]
    exact inductionHypothesis _ _ _ (spells.feed indent character)

end Composition.Spells

section Lines

variable {reader : LexemeReader} {front back line text : Text}

/-- Where literals are closed on their lines, none is open at the end of a line. -/
theorem staysOnLine_append (whole : reader.literal.staysOnLine (front ++ '\n' :: back) = true) :
    (reader.read front).literal.isOpen = false ∧
      ((reader.read front).feed '\n').literal.staysOnLine back = true := by
  induction front generalizing reader with
  | nil =>
    simp only [List.nil_append, Literal.staysOnLine, Bool.and_eq_true] at whole
    exact ⟨by simpa using whole.1, whole.2⟩
  | cons character rest inductionHypothesis =>
    simp only [List.cons_append, Literal.staysOnLine, Bool.and_eq_true] at whole
    have wholeRest : (reader.feed character).literal.staysOnLine (rest ++ '\n' :: back) = true :=
      whole.2
    exact inductionHypothesis wholeRest

/-- Blanks at the end of a line mean nothing. -/
theorem lexemes_trimEnd (closed : (reader.read line).literal.isOpen = false) :
    reader.lexemes line.trimEnd = reader.lexemes line ∧
      (reader.read line.trimEnd).literal.isOpen = false ∧
      Alike ((reader.read line.trimEnd).feed '\n') ((reader.read line).feed '\n') := by
  obtain ⟨back, blank, parts⟩ := line.exists_trimEnd
  generalize line.trimEnd = front at parts
  subst parts
  rw [read_append, isOpen_read_blank blank] at closed
  have still : ((reader.read front).read back).literal.isOpen = false := by
    rw [isOpen_read_blank blank, closed]
  refine ⟨by rw [lexemes_append, lexemes_blank closed blank, List.append_nil], closed,
    .of_not_isOpen ?_ ?_, ?_⟩
  · rw [isOpen_feed_blank isBlank_lineFeed, closed]
  · rw [read_append, isOpen_feed_blank isBlank_lineFeed, still]
  · simp only [read_append, feed, closed, still, isBlank_lineFeed, Bool.false_eq_true, if_false,
      if_true]
    rw [margin_read_blank closed blank]
    split
    · rfl
    · cases (reader.read front).margin <;> rfl

/-- Lines without the blanks at their ends have the lexemes of the lines. -/
theorem lexemes_join_trimEnd (lines : List Text) (outside : reader.literal.isOpen = false)
    (whole : reader.literal.staysOnLine (Text.join ['\n'] lines) = true) :
    reader.lexemes (Text.join ['\n'] (lines.map Text.trimEnd)) =
        reader.lexemes (Text.join ['\n'] lines) ∧
      (reader.read (Text.join ['\n'] (lines.map Text.trimEnd))).literal.isOpen = false := by
  induction lines generalizing reader with
  | nil => exact ⟨rfl, outside⟩
  | cons line others inductionHypothesis =>
    cases others with
    | nil =>
      have closed : (reader.read line).literal.isOpen = false := by
        have told := reader.staysOnLine_eq line
        simp only [Text.join] at whole
        rw [whole] at told
        simpa using (Bool.and_eq_true_iff.mp told.symm).2
      obtain ⟨same, still, -⟩ := lexemes_trimEnd closed
      exact ⟨same, still⟩
    | cons next rest =>
      have parts : Text.join ['\n'] (line :: next :: rest) =
          line ++ '\n' :: Text.join ['\n'] (next :: rest) := by simp [Text.join]
      have trimmed : Text.join ['\n'] ((line :: next :: rest).map Text.trimEnd) =
          line.trimEnd ++ '\n' :: Text.join ['\n'] ((next :: rest).map Text.trimEnd) := by
        simp [Text.join]
      rw [parts] at whole
      obtain ⟨closed, wholeRest⟩ := staysOnLine_append whole
      obtain ⟨same, still, alike⟩ := lexemes_trimEnd closed
      have closedBehind : ((reader.read line).feed '\n').literal.isOpen = false := by
        rw [isOpen_feed_blank isBlank_lineFeed, closed]
      obtain ⟨sameRest, stillRest⟩ := inductionHypothesis closedBehind wholeRest
      rw [parts, trimmed]
      refine ⟨?_, ?_⟩
      · simp only [lexemes_append, LexemeReader.lexemes, same, alike.lexemes, sameRest]
        simp [lexeme?, closed, still]
      · rw [read_append, read_cons, (alike.read _).literal.isOpen_eq, stillRest]

/-- Tidying the lines of a text keeps its lexemes. -/
theorem lexemes_tidyLines (whole : hasWholeLiterals text = true) :
    lexemesOf (tidyLines text) = lexemesOf text ∧
      (start.read (tidyLines text)).literal.isOpen = false := by
  rw [← Text.join_pieces '\n' text] at whole
  have outside : start.literal.isOpen = false := rfl
  obtain ⟨same, closed⟩ := lexemes_join_trimEnd (text.pieces '\n') outside whole
  rw [Text.join_pieces] at same
  obtain ⟨sameTrimmed, closedTrimmed⟩ := lexemes_trim closed
  exact ⟨sameTrimmed.trans same, closedTrimmed⟩

end Lines

/-- A layout has the lexemes of the text, and its literals are closed. -/
theorem lexemesOf_layout (indent : Int) {text : Text} (whole : hasWholeLiterals text = true) :
    lexemesOf (layout indent text) = lexemesOf text ∧
      (start.read (layout indent text)).literal.isOpen = false := by
  have spells := Composition.Spells.compose indent.toNat text
  have wholeComposed : hasWholeLiterals
      ((lexemesOf text).foldl (Composition.put indent.toNat) {}).written.reverse = true := by
    have told := start.staysOnLine_eq text
    have composed := start.staysOnLine_eq
      ((lexemesOf text).foldl (Composition.put indent.toNat) {}).written.reverse
    rw [spells.same, spells.literal.isOpen_eq] at composed
    exact (composed.trans told.symm).trans whole
  obtain ⟨same, closed⟩ := lexemes_tidyLines wholeComposed
  rw [layout_eq_compose]
  exact ⟨same.trans spells.same, closed⟩

end RouteCatalog
