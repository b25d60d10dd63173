import RouteCatalog.Proofs.Delimiter.Whole

/-!
# Rows at their places

A row begins at a row boundary and ends at a row end; `mem_rows_iff` says that the rows of a body are
exactly the unsplit texts between the two. What stands in front of a boundary has no part in the rows
behind it. `splitFrom_insert` says when a closed text may be put into a row without cutting it: where
the scan of the row is not at top level, and no literal is open unless the text has no marks.
-/

namespace RouteCatalog

/-- A row may begin after the text: nothing is there, or a separator at top level. -/
inductive IsRowBoundary : (front : Text) → Prop where
  | start : IsRowBoundary []
  | behind {front : Text} {separator : Char} (separates : isRowSeparator separator = true)
      (top : (Scanner.start.scan front).atTopLevel = true) : IsRowBoundary (front ++ [separator])

/-- A row may end before the text: nothing is there, or a separator at the top level of the row. -/
inductive IsRowEnd (row : Text) : (back : Text) → Prop where
  | final : IsRowEnd row []
  | before {separator : Char} {back : Text} (separates : isRowSeparator separator = true)
      (top : (Scanner.start.scan row).atTopLevel = true) : IsRowEnd row (separator :: back)

section Boundary

variable {front row back : Text}

theorem isPlain_of_isRowSeparator {separator : Char} (separates : isRowSeparator separator = true) :
    isPlain separator = true := by
  simp only [isRowSeparator, Bool.or_eq_true, beq_iff_eq] at separates
  rcases separates with rfl | rfl <;> decide

/-- A separator at top level ends the rows before it and begins those behind it. -/
theorem rows_append_cons {separator : Char} (separates : isRowSeparator separator = true)
    (top : (Scanner.start.scan front).atTopLevel = true) (back : Text) :
    rows (front ++ separator :: back) = rows front ++ rows back :=
  splitFrom_append_cons separates (isPlain_of_isRowSeparator separates) top back

/-- At a row boundary the scan is at top level. -/
theorem IsRowBoundary.top (boundary : IsRowBoundary front) :
    (Scanner.start.scan front).atTopLevel = true := by
  cases boundary with
  | start => rfl
  | behind separates top =>
    have alone : isClosed [_] = true :=
      isClosed_of_plain (by simpa using isPlain_of_isRowSeparator separates)
    rw [Scanner.scan_append]
    exact atTopLevel_scan_of_closed top alone

/-- The rows before a row boundary are the same whatever follows. -/
theorem IsRowBoundary.rows_append (boundary : IsRowBoundary front) :
    ∃ before, ∀ back, rows (front ++ back) = before ++ rows back := by
  cases boundary with
  | start => exact ⟨[], fun back => rfl⟩
  | @behind front separator separates top =>
    refine ⟨rows front, fun back => ?_⟩
    rw [List.append_assoc]
    exact rows_append_cons separates top back

/-- The rows behind a row are the same whatever row stands before them. -/
theorem IsRowEnd.rows_append (ends : IsRowEnd row back) (whole : rows row = [row]) :
    ∃ after, rows (row ++ back) = row :: after := by
  cases ends with
  | final => exact ⟨[], by simpa using whole⟩
  | @before separator back separates top =>
    have parts := rows_append_cons separates top back
    rw [whole] at parts
    exact ⟨_, parts⟩

end Boundary

section Membership

variable {row body : Text}

/-- A boundary behind a row and its separator is a boundary of the whole. -/
theorem IsRowBoundary.behind_row {front : Text} {separator : Char}
    (separates : isRowSeparator separator = true)
    (top : (Scanner.start.scan row).atTopLevel = true) (boundary : IsRowBoundary front) :
    IsRowBoundary (row ++ separator :: front) := by
  have begins : IsRowBoundary (row ++ [separator]) := .behind separates top
  cases boundary with
  | start => exact begins
  | @behind front last separatesLast topLast =>
    have shape : row ++ separator :: (front ++ [last]) = row ++ separator :: front ++ [last] := by
      simp
    rw [shape]
    refine .behind separatesLast ?_
    have behind := begins.top
    rw [← List.singleton_append, ← List.append_assoc, Scanner.scan_append]
    simp only [Scanner.atTopLevel, Scanner.depth, Bool.and_eq_true, Bool.not_eq_true',
      beq_iff_eq] at behind topLast ⊢
    have within := Scanner.Within.start behind.1
    rw [Nesting.eq_empty_of_depth_eq_zero behind.2] at within
    have scanned : Scanner.Within {} (Scanner.start.scan front) _ := within.scan (.inr rfl)
    exact ⟨scanned.inString_eq.symm.trans topLast.1, by
      rw [scanned.nesting, Nesting.depth_plus, topLast.2]
      rfl⟩

/-- The rows of a body are the unsplit texts between a row boundary and a row end. -/
theorem mem_rows_iff : row ∈ rows body ↔ ∃ front back, body = front ++ (row ++ back) ∧
    IsRowBoundary front ∧ rows row = [row] ∧ IsRowEnd row back := by
  constructor
  · intro member
    generalize found : rows body = parts at member
    induction parts generalizing body with
    | nil => cases member
    | cons first others inductionHypothesis =>
      obtain ⟨whole, shape⟩ := splitFrom_eq_cons found
      rcases shape with ⟨rfl, rfl⟩ | ⟨separator, rest, rfl, separates, top, rfl⟩
      · rw [List.mem_singleton.mp member]
        exact ⟨[], [], by simp, .start, whole, .final⟩
      · rcases List.mem_cons.mp member with rfl | further
        · exact ⟨[], separator :: rest, rfl, .start, whole, .before separates top⟩
        · have behind : ((Scanner.start.scan first).feed separator).atTopLevel = true := by
            have boundary : IsRowBoundary (first ++ [separator]) := .behind separates top
            simpa [Scanner.scan_append] using boundary.top
          rw [splitFrom_of_atTopLevel behind] at further inductionHypothesis
          obtain ⟨front, back, rfl, boundary, wholeRow, ends⟩ := inductionHypothesis rfl further
          exact ⟨first ++ separator :: front, back, by simp, boundary.behind_row separates top,
            wholeRow, ends⟩
  · rintro ⟨front, back, rfl, boundary, whole, ends⟩
    obtain ⟨before, rowsBefore⟩ := boundary.rows_append
    obtain ⟨after, rowsBehind⟩ := ends.rows_append whole
    rw [rowsBefore, rowsBehind]
    simp

end Membership

section Insert

variable {scanner : Scanner} {row back : Text}

/-- A text without marks, read inside a literal, stays inside it. -/
theorem scan_of_unmarked {quote : Quote} {text : Text} (inside : scanner.literal.quote = some quote)
    (unmarked : ∀ character ∈ text, Quote.ofMark? character = none) :
    (scanner.scan text).literal.quote = some quote ∧
      (scanner.scan text).nesting = scanner.nesting ∧
      splitFrom isRowSeparator scanner text = [text] := by
  induction text generalizing scanner with
  | nil => exact ⟨inside, rfl, rfl⟩
  | cons character rest inductionHypothesis =>
    have other : character ≠ quote.mark := by
      rintro rfl
      exact absurd (unmarked quote.mark (by simp)) (by simp)
    have quoted : scanner.inString = true := by simp [Scanner.inString, Literal.isOpen, inside]
    have stays : (scanner.feed character).literal.quote = some quote := by
      simp [Scanner.feed, Literal.feed, Literal.quoteAfter, inside, other]
    have level : (scanner.feed character).nesting = scanner.nesting := by
      simp [Scanner.feed, quoted]
    obtain ⟨stillInside, nested, whole⟩ := inductionHypothesis stays fun each member =>
      unmarked each (List.mem_cons_of_mem _ member)
    refine ⟨stillInside, nested.trans level, ?_⟩
    simp [splitFrom, whole, Scanner.atTopLevel, quoted]

/-- Inside a literal the last character matters only if it is a backslash. -/
theorem splitFrom_of_unescaped {left right : Scanner} {quote : Quote}
    (leftInside : left.literal.quote = some quote) (rightInside : right.literal.quote = some quote)
    (level : left.nesting = right.nesting) (leftUnescaped : left.literal.previous ≠ some '\\')
    (rightUnescaped : right.literal.previous ≠ some '\\') :
    splitFrom isRowSeparator left back = splitFrom isRowSeparator right back := by
  cases back with
  | nil => rfl
  | cons character rest =>
    have leftQuoted : left.inString = true := by simp [Scanner.inString, Literal.isOpen, leftInside]
    have rightQuoted : right.inString = true := by
      simp [Scanner.inString, Literal.isOpen, rightInside]
    have same : left.feed character = right.feed character := by
      simp [Scanner.feed, Literal.feed, Literal.quoteAfter, leftInside, rightInside, leftQuoted,
        rightQuoted, level, leftUnescaped, rightUnescaped]
    simp [splitFrom, Scanner.atTopLevel, leftQuoted, rightQuoted, same]

/-- A closed row and a semicolon, put where the scan is not at top level, belong to the part that
the scan is in and change nothing behind them. A literal may be open only if the row has no marks. -/
theorem splitFrom_insert (nested : scanner.atTopLevel = false) (closed : isClosed row = true)
    (undisturbed : scanner.inString = false ∨
      (∀ character ∈ row, Quote.ofMark? character = none) ∧
        scanner.literal.previous ≠ some '\\') :
    splitFrom isRowSeparator scanner (row ++ ';' :: back) =
      (splitFrom isRowSeparator scanner back).modifyHead (row ++ [';'] ++ ·) := by
  have ended : isClosed (row ++ [';']) = true := isClosed_append closed (by decide)
  have parts : row ++ ';' :: back = row ++ [';'] ++ back := by simp
  cases quoted : scanner.inString with
  | false =>
    have deep : scanner.nesting.depth ≠ 0 := by
      simpa [Scanner.atTopLevel, quoted, Scanner.depth] using nested
    have whole : splitFrom isRowSeparator scanner (row ++ [';']) = [row ++ [';']] :=
      splitFrom_of_deep (.start quoted) deep (isClosed_iff.mp ended).1
    rw [parts, splitFrom_append whole, splitFrom_within (within_behind_closed quoted ended)]
  | true =>
    obtain ⟨unmarked, unescaped⟩ := undisturbed.resolve_left (by simp [quoted])
    obtain ⟨quote, inside⟩ := Option.isSome_iff_exists.mp quoted
    have all : ∀ character ∈ row ++ [';'], Quote.ofMark? character = none := by
      intro character member
      rcases List.mem_append.mp member with inRow | last
      · exact unmarked character inRow
      · rw [List.mem_singleton.mp last]
        rfl
    obtain ⟨stillInside, level, whole⟩ := scan_of_unmarked inside all
    have last : (scanner.scan (row ++ [';'])).literal.previous ≠ some '\\' := by
      rw [Scanner.scan_append]
      simp [Scanner.feed]
    rw [parts, splitFrom_append whole,
      splitFrom_of_unescaped stillInside inside level last unescaped]

end Insert

end RouteCatalog
