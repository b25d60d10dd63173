import RouteCatalog.Proofs.Layout.Composition
import RouteCatalog.Proofs.Layout.Faithful
import RouteCatalog.Proofs.Layout.Lines

/-!
# Laying out twice

A layout depends on its text only up to tidying: blanks at the end of a line have no part in it, not
even inside a literal that goes on in the next line. So laying out what is laid out changes nothing,
whatever the text: `layoutWithin_layoutWithin`.
-/

namespace RouteCatalog

open LexemeReader

namespace Composition

variable {composition : Composition} {reader : LexemeReader} {lexeme : Lexeme}

/-- A lexeme is written. -/
theorem character_mem_put (indent : Nat) (composition : Composition) (lexeme : Lexeme) :
    lexeme.character ∈ (composition.put indent lexeme).written := by
  unfold put
  dsimp only
  split
  · simp
  repeat' (split; · simp)
  simp

/-- Writing a lexeme leaves alone what stands before a word that is written already. -/
theorem put_append (indent : Nat) {written : Text} (base : Text) (level : Nat)
    (deep : lexeme.quoted = true ∨ written.isBlankText = false) :
    put indent ⟨written ++ base, level⟩ lexeme =
      { put indent ⟨written, level⟩ lexeme with
        written := (put indent ⟨written, level⟩ lexeme).written ++ base } := by
  cases quoted : lexeme.quoted with
  | true => simp [put, quoted]
  | false =>
    have word : written.isBlankText = false := by simpa [quoted] using deep
    have kept : (written.dropWhile isBlank).isEmpty = false := by
      rw [Bool.eq_false_iff, ne_eq, List.isEmpty_iff]
      exact fun dropped => by simp [Text.trimStart_eq_nil_iff.mp dropped] at word
    have trimmed : (written ++ base).dropWhile isBlank = written.dropWhile isBlank ++ base := by
      rw [List.dropWhile_append, kept]
      rfl
    simp only [put, before, quoted, trimmed, Bool.false_eq_true, if_false]
    split
    · simp
    split
    · simp
    split
    · simp
    split <;> split <;> simp

/-- A lexeme is its character, and quoted where a literal is open; a blank is one only there. -/
theorem of_lexeme?_eq_some {character : Char} (found : reader.lexeme? character = some lexeme) :
    lexeme.character = character ∧ lexeme.quoted = reader.literal.isOpen ∧
      (isBlank character = true → reader.literal.isOpen = true) := by
  unfold lexeme? at found
  split at found
  · rename_i inside
    obtain rfl := Option.some.inj found
    exact ⟨rfl, inside.symm, fun _ => inside⟩
  · rename_i outside
    split at found
    · cases found
    · rename_i mark
      obtain rfl := Option.some.inj found
      exact ⟨rfl, (Bool.eq_false_iff.mpr outside).symm, fun blank => absurd blank mark⟩

/-- Behind a lexeme a literal is open, or a word is written. -/
theorem isOpen_or_word_of_put (indent : Nat) (composition : Composition) {character : Char}
    (found : reader.lexeme? character = some lexeme) :
    (reader.feed character).literal.isOpen = true ∨
      (composition.put indent lexeme).written.isBlankText = false := by
  obtain ⟨same, -, inside⟩ := of_lexeme?_eq_some found
  cases blank : isBlank character with
  | true => exact .inl ((isOpen_feed_blank blank).trans (inside blank))
  | false =>
    refine .inr (Bool.eq_false_iff.mpr fun all => ?_)
    have member := character_mem_put indent composition lexeme
    rw [same] at member
    exact absurd (List.all_eq_true.mp all _ member) (by simp [blank])

/-- Writing the lexemes of a text, of which the first belong to an open literal or stand behind a
word, leaves alone what stands before. -/
theorem foldl_put_append (indent : Nat) {reader : LexemeReader} {written : Text} (base : Text)
    (level : Nat) (text : Text)
    (deep : reader.literal.isOpen = true ∨ written.isBlankText = false) :
    (reader.lexemes text).foldl (put indent) ⟨written ++ base, level⟩ =
      { (reader.lexemes text).foldl (put indent) ⟨written, level⟩ with
        written := ((reader.lexemes text).foldl (put indent) ⟨written, level⟩).written ++ base } := by
  induction text generalizing reader written level with
  | nil => rfl
  | cons character rest inductionHypothesis =>
    rw [LexemeReader.lexemes, List.foldl_append, List.foldl_append]
    cases found : reader.lexeme? character with
    | none =>
      refine inductionHypothesis level (.inr ?_)
      refine deep.resolve_left fun inside => ?_
      simp [lexeme?, inside] at found
    | some lexeme =>
      have here : lexeme.quoted = true ∨ written.isBlankText = false := by
        rwa [(of_lexeme?_eq_some found).2.1]
      simp only [Option.toList_some, List.foldl_cons, List.foldl_nil]
      rw [put_append indent base level here]
      exact inductionHypothesis _ (isOpen_or_word_of_put indent ⟨written, level⟩ found)

/-- The composition of the lexemes of a text. -/
def ofText (indent : Nat) (text : Text) : Composition :=
  (lexemesOf text).foldl (put indent) {}

theorem ofText_append (indent : Nat) (front back : Text) :
    ofText indent (front ++ back) =
      ((start.read front).lexemes back).foldl (put indent) (ofText indent front) := by
  rw [ofText, lexemesOf, lexemes_append, List.foldl_append]
  rfl

/-- Blanks inside a literal are written. -/
theorem foldl_put_blank (indent : Nat) (composition : Composition) {gap : Text}
    (inside : reader.literal.isOpen = true) (blank : gap.isBlankText = true) :
    (reader.lexemes gap).foldl (put indent) composition =
      { composition with written := gap.reverse ++ composition.written } := by
  induction gap generalizing reader composition with
  | nil => rfl
  | cons character rest inductionHypothesis =>
    simp only [Text.isBlankText, List.all_cons, Bool.and_eq_true] at blank
    have still : (reader.feed character).literal.isOpen = true := by
      rw [isOpen_feed_blank blank.1, inside]
    have quoted : reader.lexeme? character = some ⟨character, true, false⟩ := by
      simp [lexeme?, inside]
    rw [LexemeReader.lexemes, quoted, List.foldl_append, inductionHypothesis _ still blank.2]
    simp [put]

end Composition

theorem layout_eq_tidyLines (indent : Int) (text : Text) :
    layout indent text = tidyLines (Composition.ofText indent.toNat text).written.reverse :=
  layout_eq_compose indent text

section Blanks

variable {reader : LexemeReader} {character : Char} {front back gap : Text}

/-- Behind a line feed, a reader is as it would be without the blank before it. -/
theorem LexemeReader.alike_feed_lineFeed (blank : isBlank character = true) :
    Alike ((reader.feed character).feed '\n') (reader.feed '\n') := by
  have quotes : ((reader.feed character).feed '\n').literal.quote =
      (reader.feed '\n').literal.quote := by
    simp only [LexemeReader.feed, quote_feed _ (ofMark?_of_blank isBlank_lineFeed),
      quote_feed _ (ofMark?_of_blank blank)]
  refine ⟨⟨quotes, fun _ => rfl⟩, ?_⟩
  have same : (reader.literal.feed character).isOpen = reader.literal.isOpen :=
    isOpen_feed_blank blank
  cases inside : reader.literal.isOpen with
  | true => simp [LexemeReader.feed, same, inside]
  | false =>
    have twice : reader.margin.afterBlank.afterBlank = reader.margin.afterBlank := by
      cases reader.margin <;> rfl
    simp [LexemeReader.feed, same, inside, blank, twice]

/-- A blank before a line feed has no part in a layout. Inside a literal it is written, and tidied
away. -/
theorem layout_before_feed (indent : Int) (front back : Text) (blank : isBlank character = true)
    (noFeed : character ≠ '\n') :
    layout indent (front ++ character :: '\n' :: back) = layout indent (front ++ '\n' :: back) := by
  have behind : ((start.read front).feed character |>.feed '\n').lexemes back =
      ((start.read front).feed '\n').lexemes back := (alike_feed_lineFeed blank).lexemes back
  rw [layout_eq_tidyLines, layout_eq_tidyLines, Composition.ofText_append,
    Composition.ofText_append]
  simp only [LexemeReader.lexemes, List.foldl_append, behind]
  cases inside : (start.read front).literal.isOpen with
  | false =>
    have still : ((start.read front).feed character).literal.isOpen = false := by
      rw [isOpen_feed_blank blank, inside]
    simp [lexeme?, inside, still, blank]
  | true =>
    have still : ((start.read front).feed character).literal.isOpen = true := by
      rw [isOpen_feed_blank blank, inside]
    have deep : ((start.read front).feed '\n').literal.isOpen = true := by
      rw [isOpen_feed_blank isBlank_lineFeed, inside]
    generalize Composition.ofText indent.toNat front = composition
    have copied : ∀ base, ((((start.read front).feed '\n').lexemes back).foldl
        (Composition.put indent.toNat) ⟨base, composition.level⟩).written =
          ((((start.read front).feed '\n').lexemes back).foldl
            (Composition.put indent.toNat) ⟨[], composition.level⟩).written ++ base := fun base =>
      congrArg Composition.written
        (@Composition.foldl_put_append indent.toNat _ [] base _ back (.inl deep))
    have tidied := @tidyLines_before_feed [character] composition.written.reverse
      ((((start.read front).feed '\n').lexemes back).foldl (Composition.put indent.toNat)
        ⟨[], composition.level⟩).written.reverse (by simpa [Text.isBlankText] using blank)
      (by simpa using Ne.symm noFeed)
    simp only [lexeme?, inside, still, if_true, Option.toList_some, List.foldl_cons, List.foldl_nil,
      Composition.put]
    rw [copied ('\n' :: character :: composition.written), copied ('\n' :: composition.written)]
    simpa using tidied

/-- Blanks at the end have no part in a layout. -/
theorem layout_append_of_blank (indent : Int) (front : Text) (blank : gap.isBlankText = true) :
    layout indent (front ++ gap) = layout indent front := by
  rw [layout_eq_tidyLines, layout_eq_tidyLines, Composition.ofText_append]
  cases inside : (start.read front).literal.isOpen with
  | false => rw [lexemes_blank inside blank, List.foldl_nil]
  | true =>
    rw [Composition.foldl_put_blank _ _ inside blank, List.reverse_append, List.reverse_reverse]
    exact tidyLines_append_of_blank _ blank

/-- Blanks at the beginning have no part in a layout. -/
theorem layout_blank_append (indent : Int) (back : Text) (blank : gap.isBlankText = true) :
    layout indent (gap ++ back) = layout indent back := by
  have begins : Alike (start.read gap) start := alike_read_blank rfl rfl blank
  rw [layout_eq_compose, layout_eq_compose, lexemesOf, lexemes_append, lexemes_blank rfl blank,
    begins.lexemes, List.nil_append]
  rfl

/-- Blanks at the end of a line have no part in a layout. -/
theorem layout_line (indent : Int) (front back : Text) (blank : gap.isBlankText = true)
    (noFeed : '\n' ∉ gap) :
    layout indent (front ++ gap ++ '\n' :: back) = layout indent (front ++ '\n' :: back) := by
  induction gap generalizing front with
  | nil => rw [List.append_nil]
  | cons character rest inductionHypothesis =>
    simp only [Text.isBlankText, List.all_cons, Bool.and_eq_true] at blank
    simp only [List.mem_cons, not_or] at noFeed
    have later := inductionHypothesis (front ++ [character]) blank.2 noFeed.2
    simp only [List.append_assoc, List.cons_append, List.nil_append] at later
    rw [List.append_assoc, List.cons_append, later,
      layout_before_feed indent front back blank.1 (Ne.symm noFeed.1)]

/-- The lines of a text without the blanks at their ends are laid out as the lines are. -/
theorem layout_join_trimEnd (indent : Int) (front : Text) (lines : List Text)
    (noFeed : ∀ line ∈ lines, '\n' ∉ line) :
    layout indent (front ++ Text.join ['\n'] (lines.map Text.trimEnd)) =
      layout indent (front ++ Text.join ['\n'] lines) := by
  induction lines generalizing front with
  | nil => rfl
  | cons line others inductionHypothesis =>
    obtain ⟨gap, blank, parts⟩ := line.exists_trimEnd
    cases others with
    | nil =>
      have whole := layout_append_of_blank indent (front ++ line.trimEnd) blank
      rw [List.append_assoc, ← parts] at whole
      exact whole.symm
    | cons next rest =>
      have gapNoFeed : '\n' ∉ gap := fun member =>
        noFeed line List.mem_cons_self (by rw [parts]; exact List.mem_append_right _ member)
      have later := inductionHypothesis (front ++ line.trimEnd ++ ['\n'])
        fun other member => noFeed other (List.mem_cons_of_mem line member)
      have here := layout_line indent (front ++ line.trimEnd)
        (Text.join ['\n'] (next :: rest)) blank gapNoFeed
      calc layout indent (front ++ Text.join ['\n'] ((line :: next :: rest).map Text.trimEnd))
          = layout indent (front ++ line.trimEnd ++ ['\n'] ++
              Text.join ['\n'] ((next :: rest).map Text.trimEnd)) := by simp [Text.join]
        _ = layout indent (front ++ line.trimEnd ++ '\n' :: Text.join ['\n'] (next :: rest)) := by
            rw [later]; simp
        _ = layout indent (front ++ line ++ '\n' :: Text.join ['\n'] (next :: rest)) := by
            rw [← here, List.append_assoc front, ← parts]
        _ = layout indent (front ++ Text.join ['\n'] (line :: next :: rest)) := by simp [Text.join]

/-- Tidying a text first changes nothing about its layout. -/
theorem layout_tidyLines (indent : Int) (text : Text) :
    layout indent (tidyLines text) = layout indent text := by
  obtain ⟨front, back, frontBlank, backBlank, parts⟩ := (Text.trimLines text).exists_trimmed
  have lines := layout_join_trimEnd indent [] (text.pieces '\n')
    fun line member => Text.not_mem_of_mem_pieces member
  rw [List.nil_append, List.nil_append, Text.join_pieces] at lines
  have trimmed : layout indent (Text.trimLines text) = layout indent text := lines
  rw [← trimmed, parts, layout_blank_append indent _ frontBlank,
    layout_append_of_blank indent _ backBlank]
  rfl

end Blanks

/-- What is laid out is its own layout: the composition of a text has its lexemes, and differs from
the layout in blanks at the ends of lines only. -/
theorem layout_layout (indent : Int) (text : Text) :
    layout indent (layout indent text) = layout indent text := by
  have spells := Composition.Spells.compose indent.toNat text
  have same : lexemesOf (Composition.ofText indent.toNat text).written.reverse = lexemesOf text :=
    spells.same
  rw [layout_eq_tidyLines indent text, layout_tidyLines, layout_eq_compose, same,
    ← layout_eq_compose, layout_eq_tidyLines]

/-- Laying out what is laid out comes to what laying out once comes to, whatever the text and the
indent: the same layout, which there is for every indent of 64 bits, or the same fault. -/
theorem layoutWithin_layoutWithin (indent : Int) (text : Text) :
    (layoutWithin indent text >>= layoutWithin indent) = layoutWithin indent text ∧
      ((∃ laidOut, layoutWithin indent text = .ok laidOut) ↔ indentFault? indent = none) := by
  cases fault : indentFault? indent with
  | none => simp [layoutWithin, fault, layout_layout, bind, Except.bind]
  | some fault => simp [layoutWithin, fault, bind, Except.bind]

end RouteCatalog
