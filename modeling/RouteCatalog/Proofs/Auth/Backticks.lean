import Mathlib.Data.List.Basic
import RouteCatalog.Handler
import RouteCatalog.Proofs.Auth.Provenance
import RouteCatalog.Proofs.Auth.Written
import RouteCatalog.Proofs.Text.Pieces

/-!
# Strings in backticks

A literal in backticks is read as a string, but to the scan a backtick is a character like any other, so
what stands between two of them is stripped of comments, cut at separators and counted into the groups
around it. `readsBackticks_iff` says which strings come through all that: those without comments outside
their own quotes, of one row, whose quotes and groups leave the literal around them one block.
-/

namespace RouteCatalog

/-- An auth literal with a condition up to the value that it expects. -/
def literalOpening : Text :=
  "\x7b login: true, additional: [\x7b key: 'k', value: ".toList

/-- The auth literal whose condition expects a string in backticks. -/
def backtickLiteral (content : Text) : Text :=
  literalOpening ++ '\x60' :: (content ++ "\x60 \x7d] \x7d".toList)

/-- The source text that exports the literal. -/
def backtickSource (content : Text) : Text :=
  "export const auth = ".toList ++ (backtickLiteral content ++ [';'])

/-- The requirement that is read of the source text is the one that it states. -/
def ReadsBackticks (content : Text) : Prop :=
  (HandlerMeta.ofSource (backtickSource content)).auth =
    { requiresLogin := true
      additional := [⟨"k".toList, .value, .text content⟩]
      known := true }

section Source

variable {content : Text}

/-- The source text up to the string. -/
def sourceOpening : Text :=
  "export const auth = ".toList ++ literalOpening

/-- The source text behind the string. -/
def sourceEnding : Text :=
  "\x60 \x7d] \x7d;".toList

/-- The literal with the semicolon behind it. -/
theorem backtickLiteral_concat (content : Text) :
    backtickLiteral content ++ [';'] = literalOpening ++ '\x60' :: (content ++ sourceEnding) := by
  have regrouped : ∀ opening content closing ending : Text,
      opening ++ '\x60' :: (content ++ closing) ++ ending =
        opening ++ '\x60' :: (content ++ (closing ++ ending)) := by simp
  exact regrouped literalOpening content "\x60 \x7d] \x7d".toList [';']

theorem backtickSource_eq (content : Text) :
    backtickSource content = sourceOpening ++ '\x60' :: (content ++ sourceEnding) :=
  (congrArg ("export const auth = ".toList ++ ·) (backtickLiteral_concat content)).trans
    (List.append_assoc ..).symm

/-- No comment opens before the string. -/
theorem stripComments_opening (rest : Text) : stripComments (sourceOpening ++ rest) =
    sourceOpening ++ stripCommentsFrom .code (Scanner.start.scan sourceOpening) rest := by
  have noSlash : '/' ∉ sourceOpening := by decide
  have last : sourceOpening.getLast? = some ' ' := by decide
  exact stripCommentsFrom_append (stripCommentsFrom_of_not_mem noSlash .start)
    (by rw [opensComment, last]; rfl)

/-- Stripping the source text of comments leaves it as it is exactly if it leaves the string so. -/
theorem stripComments_backtickSource_iff :
    stripComments (backtickSource content) = backtickSource content ↔
      stripComments content = content := by
  have outside : ((Scanner.start.scan sourceOpening).feed '\x60').inString = false := by decide
  have apart : opensComment ['\x60'] (content ++ sourceEnding) = false := rfl
  have apartBehind : opensComment content sourceEnding = false := Bool.and_false _
  have noSlash : '/' ∉ sourceEnding := by decide
  rw [backtickSource_eq, stripComments_opening, List.append_cancel_left_eq,
    stripCommentsFrom_cons_eq_iff, stripCommentsFrom_append_eq_iff apartBehind,
    stripCommentsFrom_alike (.of_not_isOpen outside Scanner.inString_start)]
  simp only [apart, or_true, true_and, stripCommentsFrom_of_not_mem noSlash, and_true, stripComments]

/-- All slashes of the source text are those of the string. -/
theorem count_slash_backtickSource : (backtickSource content).count '/' = content.count '/' := by
  have opening : sourceOpening.count '/' = 0 := by decide
  have ending : sourceEnding.count '/' = 0 := by decide
  simp [backtickSource_eq, opening, ending]

/-- What an exported literal begins with is the auth literal of the source text, if it ends. -/
theorem authLiteral?_opening (behind : Text) :
    authLiteral? (sourceOpening ++ behind) = block? (literalOpening ++ behind) := by
  have opened : atAuthLiteral? (sourceOpening ++ behind) = some (literalOpening ++ behind) := rfl
  rw [authLiteral?, firstMatch_of_reader opened, Option.bind_some]

end Source

section Reading

variable {content front back : Text}

/-- What stands between the braces of the condition. -/
def backtickObject (content : Text) : Text :=
  " key: 'k', value: \x60".toList ++ (content ++ "\x60 ".toList)

/-- The list of the one condition. -/
def backtickList (content : Text) : Text :=
  "[\x7b key: 'k', value: \x60".toList ++ (content ++ "\x60 \x7d]".toList)

/-- The first and the last character of a text around a string. -/
theorem cons_around_concat (first last : Char) (front content back : Text) :
    first :: front ++ (content ++ (back ++ [last])) = first :: (front ++ (content ++ back) ++ [last]) := by
  simp

/-- The object of the condition in its braces. -/
theorem braced_backtickObject (content : Text) :
    "\x7b key: 'k', value: \x60".toList ++ (content ++ "\x60 \x7d".toList) =
      '{' :: (backtickObject content ++ ['}']) :=
  cons_around_concat '{' '}' " key: 'k', value: \x60".toList content "\x60 ".toList

/-- The list is the braced object in brackets. -/
theorem backtickList_eq (content : Text) :
    backtickList content = '[' :: ('{' :: (backtickObject content ++ ['}']) ++ [']']) := by
  rw [← braced_backtickObject]
  exact cons_around_concat '[' ']' "\x7b key: 'k', value: \x60".toList content "\x60 \x7d".toList

/-- A text that begins and ends with other than blanks is what trimming leaves of it between spaces. -/
theorem trim_spaced {first last : Char} (firstMark : isBlank first = false)
    (lastMark : isBlank last = false) (middle : Text) :
    Text.trim (' ' :: (first :: (middle ++ [last]) ++ [' '])) = first :: (middle ++ [last]) := by
  have blank : Text.isBlankText [' '] = true := by decide
  have between : Text.trim ([' '] ++ first :: (middle ++ [last]) ++ [' ']) =
      Text.trim (first :: (middle ++ [last])) := Text.trim_between blank blank
  rw [Text.trim_of_ends firstMark lastMark] at between
  exact between

/-- A string of one row does not cut the text around it. -/
theorem splitTopLevel_around {isSeparator : Char → Bool}
    (fewer : ∀ character, isSeparator character = true → isRowSeparator character = true)
    (begins : splitTopLevel isSeparator front = [front])
    (outside : (Scanner.start.scan front).inString = false) (whole : rows content = [content])
    (ends : back.all (fun character => !isSeparator character) = true) :
    splitTopLevel isSeparator (front ++ (content ++ back)) = [front ++ (content ++ back)] := by
  have inside : splitFrom isSeparator (Scanner.start.scan front) content = [content] :=
    splitFrom_of_below (.start outside) fewer whole
  rw [splitTopLevel, splitFrom_append begins, splitFrom_append inside,
    splitFrom_of_not_separator ends]
  rfl

/-- The entries of the condition. -/
theorem entriesOf_backtickObject (whole : rows content = [content]) :
    entriesOf (backtickObject content) =
      [("key".toList, "'k'".toList), ("value".toList, '\x60' :: (content ++ ['\x60']))] := by
  have spaced : " \x60".toList ++ (content ++ "\x60 ".toList) =
      ' ' :: ('\x60' :: (content ++ ['\x60']) ++ [' ']) :=
    cons_around_concat ' ' ' ' ['\x60'] content ['\x60']
  have value : entryOfRow? (" value: \x60".toList ++ (content ++ "\x60 ".toList)) =
      some ("value".toList, '\x60' :: (content ++ ['\x60'])) := by
    rw [← trim_spaced (by decide) (by decide) content, ← spaced]
    rfl
  have key : entryOfRow? " key: 'k'".toList = some ("key".toList, "'k'".toList) := by decide
  have parts : backtickObject content =
      " key: 'k'".toList ++ ',' :: (" value: \x60".toList ++ (content ++ "\x60 ".toList)) := rfl
  rw [parts, entriesOf, rows, splitTopLevel_cons rfl rfl (by decide) (by decide),
    splitTopLevel_around (fun _ => id) (by decide) (by decide) whole (by decide),
    List.filterMap_cons_some key, List.filterMap_cons_some value]
  rfl

/-- The string between the backticks is what the condition expects. -/
theorem conditionOf?_backtick (content : Text) :
    conditionOf? [("key".toList, "'k'".toList), ("value".toList, '\x60' :: (content ++ ['\x60']))] =
      some ⟨"k".toList, .value, .text content⟩ := by
  rw [← readLiteral_between (by decide : '\x60' ∈ ['\'', '"', '\x60']) content]
  rfl

/-- The list is read as the one condition. -/
theorem readConditions?_backtickList (whole : rows content = [content]) :
    readConditions? (backtickList content) = some [⟨"k".toList, .value, .text content⟩] := by
  have list : (backtickList content).trim = '[' :: ('{' :: (backtickObject content ++ ['}']) ++ [']']) := by
    rw [backtickList_eq]
    exact Text.trim_of_ends (by decide) (by decide)
  have object : unwrapBraces? ('{' :: (backtickObject content ++ ['}'])) =
      some (backtickObject content) :=
    unwrapBraces?_eq_some_iff.mpr (Text.trim_of_ends (by decide) (by decide))
  have comma : ∀ character : Char, (character == ',') = true → isRowSeparator character = true := by
    intro character same
    simp [isRowSeparator, same]
  have items : splitTopLevel (· == ',') ('{' :: (backtickObject content ++ ['}'])) =
      ['{' :: (backtickObject content ++ ['}'])] := by
    rw [← braced_backtickObject]
    exact splitTopLevel_around comma (by decide) (by decide) whole (by decide)
  rw [readConditions?_of_trim list, items, List.filter_cons_of_pos rfl, List.filter_nil, List.mapM_cons,
    object, Option.bind_some, entriesOf_backtickObject whole, conditionOf?_backtick]
  rfl

/-- What stands between the braces of the literal. -/
def backtickInterior (content : Text) : Text :=
  " login: true, additional: [\x7b key: 'k', value: \x60".toList ++ (content ++ "\x60 \x7d] ".toList)

/-- The literal is its interior in braces. -/
theorem backtickLiteral_eq (content : Text) :
    backtickLiteral content = '{' :: (backtickInterior content ++ ['}']) :=
  cons_around_concat '{' '}' " login: true, additional: [\x7b key: 'k', value: \x60".toList content
    "\x60 \x7d] ".toList

/-- The literal is read as the requirement that it states. -/
theorem readAuthLiteral_backtickLiteral (whole : rows content = [content]) :
    readAuthLiteral (backtickLiteral content) =
      { requiresLogin := true
        additional := [⟨"k".toList, .value, .text content⟩]
        known := true } := by
  have spaced : " [\x7b key: 'k', value: \x60".toList ++ (content ++ "\x60 \x7d] ".toList) =
      ' ' :: (backtickList content ++ [' ']) :=
    cons_around_concat ' ' ' ' "[\x7b key: 'k', value: \x60".toList content "\x60 \x7d]".toList
  have list : entryOfRow? (" additional: [\x7b key: 'k', value: \x60".toList ++
      (content ++ "\x60 \x7d] ".toList)) = some ("additional".toList, backtickList content) := by
    rw [backtickList_eq] at spaced ⊢
    rw [← trim_spaced (by decide) (by decide), ← spaced]
    rfl
  have login : entryOfRow? " login: true".toList = some ("login".toList, boolToken true) := by decide
  have entries : entriesOf (backtickInterior content) =
      [("login".toList, boolToken true), ("additional".toList, backtickList content)] := by
    have parts : backtickInterior content = " login: true".toList ++ ',' ::
        (" additional: [\x7b key: 'k', value: \x60".toList ++ (content ++ "\x60 \x7d] ".toList)) := rfl
    rw [parts, entriesOf, rows, splitTopLevel_cons rfl rfl (by decide) (by decide),
      splitTopLevel_around (fun _ => id) (by decide) (by decide) whole (by decide),
      List.filterMap_cons_some login, List.filterMap_cons_some list]
    rfl
  rw [backtickLiteral_eq]
  exact readAuthLiteral_of_entries entries (readConditions?_backtickList whole)

/-- A string without comments and of one row is read if the literal around it is one block. -/
theorem readsBackticks_of_isOneBlock (stripped : stripComments content = content)
    (whole : rows content = [content]) (oneBlock : isOneBlock (backtickLiteral content) = true) :
    ReadsBackticks content := by
  have found : authLiteral? (backtickSource content) = some (backtickLiteral content) := by
    have literal : literalOpening ++ '\x60' :: (content ++ sourceEnding) =
        '{' :: (backtickInterior content ++ '}' :: [';']) := by
      rw [← backtickLiteral_concat, backtickLiteral_eq, List.cons_append, List.append_assoc]
      rfl
    rw [backtickLiteral_eq] at oneBlock ⊢
    rw [backtickSource_eq, authLiteral?_opening, literal]
    exact block?_append_eq_some_iff.mpr oneBlock
  change readAuth (stripComments (backtickSource content)) = _
  rw [stripComments_backtickSource_iff.mpr stripped, readAuth_of_literal found,
    readAuthLiteral_backtickLiteral whole]

end Reading

section Provenance

variable {content : Text}

/-- A condition that expects a string is stated by a row of the auth literal in which the string stands. -/
theorem exists_row_of_readsBackticks (reads : ReadsBackticks content) :
    ∃ literal front row back value,
      authLiteral? (stripComments (backtickSource content)) = some literal ∧
      literalInterior literal = front ++ (row ++ back) ∧ ']' ∈ back ∧ rows row = [row] ∧
      entryOfRow? row = some ("value".toList, value) ∧ readLiteral value = .text content := by
  have auth : readAuth (stripComments (backtickSource content)) =
      { requiresLogin := true
        additional := [⟨"k".toList, .value, .text content⟩]
        known := true } := reads
  have member : ⟨"k".toList, .value, .text content⟩ ∈
      (readAuth (stripComments (backtickSource content))).additional := by
    rw [auth]
    exact List.mem_singleton_self _
  obtain ⟨literal, front, row, back, value, found, parts, bracket, whole, entry, expected⟩ :=
    exists_row_of_mem_additional member
  exact ⟨literal, front, row, back, value, found, parts, bracket, whole, entry, expected.symm⟩

/-- If what is left of the source text states the requirement, nothing was stripped of it. -/
theorem stripComments_of_readsBackticks (reads : ReadsBackticks content) :
    stripComments (backtickSource content) = backtickSource content := by
  obtain ⟨literal, front, row, back, value, found, parts, -, -, entry, read⟩ :=
    exists_row_of_readsBackticks reads
  have inside : content <:+: stripComments (backtickSource content) := by
    rw [backtickSource_eq, stripComments_opening] at found ⊢
    generalize stripCommentsFrom .code _ _ = rest at found ⊢
    rw [authLiteral?_opening] at found
    obtain ⟨opener, interior, closer, behind, text, rfl, -⟩ := exists_of_block? found
    rw [literalInterior, List.drop_one, List.tail_cons, List.dropLast_concat] at parts
    have inLiteral : content <:+: literalOpening ++ rest := by
      have inRow := (isInfix_of_readLiteral_eq_text read).trans (isInfix_of_entryOfRow? entry)
      rw [text, parts]
      exact inRow.trans ⟨opener :: front, back ++ closer :: behind, by simp⟩
    have ends : literalOpening ++ rest <:+ sourceOpening ++ rest :=
      ⟨"export const auth = ".toList, (List.append_assoc ..).symm⟩
    exact inLiteral.trans ends.isInfix
  -- A comment would have taken a slash of the string along, and there are no others.
  refine (stripCommentsFrom_eq_or_count_lt .start (backtickSource content)).resolve_right ?_
  have slashes := inside.sublist.count_le '/'
  rw [count_slash_backtickSource]
  exact Nat.not_lt.mpr slashes

/-- A row of the literal before the string has no value at its key `value`. -/
theorem eq_nil_of_entry_in_opening {row value : Text} (inside : row <:+: literalOpening)
    (entry : entryOfRow? row = some ("value".toList, value)) : value = [] := by
  obtain ⟨front, token, gap, tail, -, reads, -, rfl, rfl⟩ := entryOfRow?_eq_some_iff.mp entry
  have first : 'v' ∈ token := by
    cases reads with
    | quoted quote absent => simp [Quote.around]
    | bare nonempty bare => decide
  obtain ⟨before, after, rfl⟩ := List.append_of_mem first
  obtain ⟨ahead, behind, same⟩ := inside
  -- The opening has one `v`, and behind it one colon and a space.
  have opening : literalOpening =
      "\x7b login: true, additional: [\x7b key: 'k', ".toList ++ 'v' :: ("alue".toList ++ ':' :: [' ']) := by
    decide
  have regrouped : (ahead ++ front ++ before) ++ 'v' :: ((after ++ gap) ++ ':' :: (tail ++ behind)) =
      literalOpening := by rw [← same]; simp
  rw [opening] at regrouped
  obtain ⟨-, -, rest⟩ := (List.append_cons_inj_of_notMem (by decide) (by decide)).mp regrouped.symm
  obtain ⟨-, -, rest⟩ := (List.append_cons_inj_of_notMem (by decide) (by decide)).mp rest
  have spaces : (tail ++ behind : Text).isBlankText = true := by
    rw [← rest]
    decide
  rw [Text.isBlankText_append, Bool.and_eq_true] at spaces
  exact Text.trim_eq_nil_iff.mpr spaces.1

/-- A row without a backtick that states what the condition expects: the string is empty. -/
theorem eq_nil_of_unmarked_row {row value : Text} (unmarked : '\x60' ∉ row)
    (inside : row <:+: literalOpening ++ '\x60' :: (content ++ sourceEnding))
    (entry : entryOfRow? row = some ("value".toList, value))
    (read : readLiteral value = .text content) : content = [] := by
  have inValue := isInfix_of_readLiteral_eq_text read
  -- The row stands before, between or behind the backticks. Between them the string would be shorter
  -- than itself, and behind them no colon stands.
  rcases Text.isInfix_of_not_mem unmarked inside with inOpening | inRest
  · rw [eq_nil_of_entry_in_opening inOpening entry] at inValue
    exact List.infix_nil.mp inValue
  · obtain ⟨front, token, gap, tail, -, -, -, rfl, rfl⟩ := entryOfRow?_eq_some_iff.mp entry
    rcases Text.isInfix_of_not_mem unmarked inRest with inContent | inClosing
    · have fits := (inValue.trans (Text.trim_isInfix tail)).length_le
      have longer := inContent.length_le
      simp only [List.length_append, List.length_cons] at longer
      omega
    · have colon : ':' ∈ front ++ (token ++ (gap ++ ':' :: tail)) := by simp
      exact absurd (inClosing.subset colon) (by decide)

/-- A row with a backtick that states what the condition expects: it ends with the string in backticks,
and the string is of one row as the row itself is. -/
theorem eq_of_marked_row {row value : Text} (unmarked : '\x60' ∉ content) (marked : '\x60' ∈ row)
    (whole : rows row = [row]) (entry : entryOfRow? row = some ("value".toList, value))
    (read : readLiteral value = .text content) :
    ∃ opening gap, row = opening ++ '\x60' :: (content ++ '\x60' :: gap) ∧
      rows content = [content] := by
  obtain ⟨front, token, gap, tail, blankFront, reads, isGap, rfl, rfl⟩ :=
    entryOfRow?_eq_some_iff.mp entry
  obtain ⟨lead, behind, blankLead, blankBehind, parts⟩ := tail.exists_trimmed
  have noBlank : ∀ {gap : Text}, gap.isBlankText = true → '\x60' ∉ gap := fun blank member =>
    absurd (List.all_eq_true.mp blank _ member) (by decide)
  have noToken : '\x60' ∉ token := by
    cases reads with
    | quoted quote absent => cases quote <;> decide
    | bare nonempty bare => decide
  have noGap : '\x60' ∉ gap := by
    cases isGap with
    | blank blank => exact noBlank blank
    | optional blankFront blankBack => simp [noBlank blankFront, noBlank blankBack]
  have inTail : '\x60' ∈ tail.trim := by
    rw [parts] at marked
    simpa [noBlank blankFront, noToken, noGap, noBlank blankLead, noBlank blankBehind] using marked
  have value : tail.trim = '\x60' :: (content ++ ['\x60']) := by
    rcases eq_of_readLiteral_eq_text read with same | ⟨mark, -, same⟩ <;> rw [Text.trim_trim] at same
    · exact absurd (same ▸ inTail) unmarked
    · rw [same] at inTail ⊢
      obtain rfl : mark = '\x60' := by
        simpa [unmarked, eq_comm] using inTail
      rfl
  have shape : front ++ (token ++ (gap ++ ':' :: tail)) =
      front ++ (token ++ (gap ++ ':' :: lead)) ++ '\x60' :: (content ++ '\x60' :: behind) := by
    rw [parts, value]
    simp
  have closed : isClosed (front ++ (token ++ (gap ++ ':' :: lead)) ++ ['\x60']) = true :=
    isClosed_append (isClosed_entryOpening blankFront reads (by decide) isGap blankLead) (by decide)
  rw [shape, List.append_cons] at whole
  exact ⟨_, behind, shape, whole_of_append (whole_behind closed whole)⟩

/-- What follows the string in backticks up to a bracket and a character that is no plain one leaves but
the semicolon. -/
theorem eq_of_ending {closer : Char} {front back behind : Text} (notPlain : isPlain closer = false)
    (bracket : ']' ∈ back) (unmarked : '\x60' ∉ content)
    (text : literalOpening ++ '\x60' :: (content ++ sourceEnding) =
      front ++ '\x60' :: (content ++ '\x60' :: (back ++ closer :: behind))) :
    closer = '}' ∧ behind = [';'] := by
  have ending : sourceEnding = '\x60' :: " \x7d] \x7d;".toList := rfl
  have opening : literalOpening.count '\x60' = 0 := by decide
  -- The two backticks of the text are those around the string.
  have marks := congrArg (List.count '\x60') text
  simp only [List.count_append, List.count_cons_self, opening, ending,
    List.count_eq_zero_of_not_mem unmarked] at marks
  have unmarkedBack : '\x60' ∉ back ++ closer :: behind := by
    rw [← List.count_eq_zero, List.count_append]
    have none : " \x7d] \x7d;".toList.count '\x60' = 0 := by decide
    omega
  have regrouped : ∀ before after : Text, before ++ '\x60' :: (content ++ '\x60' :: after) =
      (before ++ '\x60' :: content) ++ '\x60' :: after := by simp
  rw [ending, regrouped, regrouped] at text
  obtain ⟨-, same⟩ := Text.eq_of_append_separator (by decide) unmarkedBack text
  obtain ⟨before, after, rfl⟩ := List.append_of_mem bracket
  have list : " \x7d] \x7d;".toList = " \x7d".toList ++ ']' :: " \x7d;".toList := rfl
  rw [list, List.append_assoc, List.cons_append] at same
  obtain ⟨-, -, rest⟩ := (List.append_cons_inj_of_notMem (by decide) (by decide)).mp same
  have member : closer ∈ " \x7d;".toList := by
    rw [rest]
    simp
  obtain rfl : closer = '}' := by
    have oneOf : closer = ' ' ∨ closer = '}' ∨ closer = ';' := by simpa using member
    rcases oneOf with rfl | brace | rfl
    · exact absurd notPlain (by decide)
    · exact brace
    · exact absurd notPlain (by decide)
  have brace : " \x7d;".toList = [' '] ++ '}' :: [';'] := rfl
  rw [brace] at rest
  obtain ⟨-, -, rfl⟩ := (List.append_cons_inj_of_notMem (by decide) (by decide)).mp rest
  exact ⟨rfl, rfl⟩

end Provenance

/-- A string in backticks is read exactly if it holds no comment outside its own quotes, is of one row, and
leaves the literal around it one block. -/
theorem readsBackticks_iff {content : Text} (unmarked : '\x60' ∉ content) : ReadsBackticks content ↔
    stripComments content = content ∧ rows content = [content] ∧
      isOneBlock (backtickLiteral content) = true := by
  constructor
  · intro reads
    have stripped := stripComments_of_readsBackticks reads
    obtain ⟨literal, front, row, back, value, found, parts, bracket, whole, entry, read⟩ :=
      exists_row_of_readsBackticks reads
    rw [stripped, backtickSource_eq, authLiteral?_opening] at found
    obtain ⟨opener, interior, closer, behind, text, rfl, notPlain⟩ := exists_of_block? found
    rw [literalInterior, List.drop_one, List.tail_cons, List.dropLast_concat] at parts
    subst parts
    refine ⟨stripComments_backtickSource_iff.mp stripped, ?_⟩
    by_cases marked : '\x60' ∈ row
    · obtain ⟨opening, gap, rfl, oneRow⟩ := eq_of_marked_row unmarked marked whole entry read
      refine ⟨oneRow, ?_⟩
      obtain ⟨rfl, rfl⟩ := eq_of_ending notPlain (List.mem_append_right gap bracket) unmarked
        (text.trans (by simp) : _ = opener :: (front ++ opening) ++ '\x60' ::
          (content ++ '\x60' :: (gap ++ back ++ closer :: behind)))
      have literal : backtickLiteral content =
          opener :: (front ++ (opening ++ '\x60' :: (content ++ '\x60' :: gap) ++ back) ++ ['}']) := by
        rw [← backtickLiteral_concat] at text
        exact List.append_cancel_right (text.trans (by simp))
      rw [literal]
      exact block?_append_eq_some_iff.mp (text ▸ found)
    · have inside : row <:+: literalOpening ++ '\x60' :: (content ++ sourceEnding) := by
        rw [text]
        exact ⟨opener :: front, back ++ closer :: behind, by simp⟩
      obtain rfl := eq_nil_of_unmarked_row marked inside entry read
      exact ⟨by decide, by decide⟩
  · rintro ⟨stripped, whole, oneBlock⟩
    exact readsBackticks_of_isOneBlock stripped whole oneBlock

/-- A string with a comma and a comment mark in its own quotes, and with groups. -/
theorem readsBackticks_quoted :
    '\x60' ∉ "f(x) = [\x7by\x7d, 'a; // b']".toList ∧
      ReadsBackticks "f(x) = [\x7by\x7d, 'a; // b']".toList :=
  ⟨by decide, (readsBackticks_iff (by decide)).mpr ⟨by decide, by decide, by decide⟩⟩

/-- A string is cut at its comma, and the condition expects what is before it and the first backtick. -/
theorem not_readsBackticks_comma :
    ¬ReadsBackticks "a, b".toList ∧
      (HandlerMeta.ofSource (backtickSource "a, b".toList)).auth =
        { requiresLogin := true
          additional := [⟨"k".toList, .value, .text "\x60a".toList⟩]
          known := true } := by
  have read : (HandlerMeta.ofSource (backtickSource "a, b".toList)).auth =
      { requiresLogin := true
        additional := [⟨"k".toList, .value, .text "\x60a".toList⟩]
        known := true } := by decide +kernel
  refine ⟨fun reads => ?_, read⟩
  rw [ReadsBackticks, read] at reads
  exact absurd reads (by decide)

end RouteCatalog
