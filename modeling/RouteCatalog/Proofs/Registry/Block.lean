import RouteCatalog.Proofs.Entry
import RouteCatalog.Proofs.Rows
import RouteCatalog.Registry

/-!
# Blocks at their places

A block of a body stands between the braces of a row of the body; `mem_blocksOf_iff` says where.
What opens the block decides its key, so another text between the braces is the block of the same
key, and what opens it is closed unless the key ends with a backslash. The signatures of a type map are
read from the blocks of names and versions: `mem_signaturesOf_iff`.
-/

namespace RouteCatalog

/-- The key and the interior of a row that is a block. -/
def blockOfRow? (row : Text) : Option (Text × Text) :=
  (entryOfRow? row).bind fun (key, value) => (unwrapBraces? value).map fun inside => (key, inside)

/-- The blocks of a body are those of its rows. -/
theorem blocksOf_eq_filterMap (body : Text) : blocksOf body = (rows body).filterMap blockOfRow? := by
  rw [blocksOf, entriesOf, List.filterMap_filterMap]
  rfl

/-- The row of an entry whose value is a block: what opens the block, what the block holds, and
blanks behind it. -/
structure IsBlockRow (key opening inside closing : Text) : Prop where
  whole : rows (opening ++ '{' :: (inside ++ '}' :: closing)) =
    [opening ++ '{' :: (inside ++ '}' :: closing)]
  entry : entryOfRow? (opening ++ '{' :: (inside ++ '}' :: closing)) =
    some (key, '{' :: (inside ++ ['}']))
  blank : closing.isBlankText = true

/-- Between the two texts stands what the block of an entry with the key holds. -/
inductive IsBlockAt (key : Text) : (before inside after : Text) → Prop where
  | intro {front opening inside closing back : Text} (begins : IsRowBoundary front)
      (row : IsBlockRow key opening inside closing)
      (ends : IsRowEnd (opening ++ '{' :: (inside ++ '}' :: closing)) back) :
      IsBlockAt key (front ++ (opening ++ ['{'])) inside ('}' :: (closing ++ back))

section BlockRow

variable {key opening inside closing : Text}

/-- Blanks behind a closing brace are told from what is before it. -/
theorem blanks_behind_brace {front other back gap : Text} (blank : back.isBlankText = true)
    (gapBlank : gap.isBlankText = true) (same : front ++ '}' :: back = other ++ '}' :: gap) :
    front = other ∧ back = gap := by
  have behind : ∀ {front back : Text}, back.isBlankText = true →
      (front ++ '}' :: back).reverse.takeWhile isBlank = back.reverse := by
    intro front back blank
    have brace : isBlank '}' = false := by decide
    have members : ∀ character ∈ back.reverse, isBlank character = true := by
      simpa [Text.isBlankText] using blank
    simp only [List.reverse_append, List.reverse_cons, List.append_assoc]
    rw [List.takeWhile_append_of_pos members]
    simp [brace]
  have reversed := congrArg (fun text : Text => text.reverse.takeWhile isBlank) same
  simp only [behind blank, behind gapBlank] at reversed
  have gaps := List.reverse_injective reversed
  subst gaps
  exact ⟨List.append_cancel_right same, rfl⟩

/-- What opens a block is a key with blanks before it, a colon, and blanks. -/
theorem IsBlockRow.exists_opening (row : IsBlockRow key opening inside closing) :
    ∃ front token gap lead : Text, front.isBlankText = true ∧ ReadsKey token key ∧
      IsColonGap gap ∧ lead.isBlankText = true ∧
      opening = front ++ (token ++ (gap ++ ':' :: lead)) := by
  obtain ⟨front, token, gap, tail, blankFront, reads, isGap, parts, trimmed⟩ :=
    entryOfRow?_eq_some_iff.mp row.entry
  obtain ⟨lead, back, blankLead, blankBack, tailParts⟩ := tail.exists_trimmed
  refine ⟨front, token, gap, lead, blankFront, reads, isGap, blankLead, ?_⟩
  have same : (opening ++ '{' :: inside) ++ '}' :: closing =
      (front ++ (token ++ (gap ++ ':' :: lead)) ++ '{' :: inside) ++ '}' :: back := by
    rw [tailParts, ← trimmed] at parts
    simpa using parts
  exact List.append_cancel_right (blanks_behind_brace row.blank blankBack same).1

/-- What a block holds has no part in the key of its row. -/
theorem IsBlockRow.entry_of_other (row : IsBlockRow key opening inside closing) (other : Text) :
    entryOfRow? (opening ++ '{' :: (other ++ '}' :: closing)) =
      some (key, '{' :: (other ++ ['}'])) := by
  obtain ⟨front, token, gap, lead, blankFront, reads, isGap, blankLead, rfl⟩ := row.exists_opening
  refine entryOfRow?_eq_some_iff.mpr ⟨front, token, gap, lead ++ '{' :: (other ++ '}' :: closing),
    blankFront, reads, isGap, by simp, ?_⟩
  have ends : Text.trim ('{' :: (other ++ ['}'])) = '{' :: (other ++ ['}']) :=
    Text.trim_of_ends (by decide) (by decide)
  have between : Text.trim (lead ++ ('{' :: (other ++ ['}'])) ++ closing) =
      Text.trim ('{' :: (other ++ ['}'])) := Text.trim_between blankLead row.blank
  rw [ends] at between
  simpa using between.symm

/-- With another text between its braces, the row is the block of the same key. -/
theorem IsBlockRow.blockOfRow?_of_other (row : IsBlockRow key opening inside closing)
    (other : Text) :
    blockOfRow? (opening ++ '{' :: (other ++ '}' :: closing)) = some (key, other) := by
  have unwrapped : unwrapBraces? ('{' :: (other ++ ['}'])) = some other :=
    unwrapBraces?_eq_some_iff.mpr (Text.trim_of_ends (by decide) (by decide))
  simp [blockOfRow?, row.entry_of_other other, unwrapped]

/-- What opens a block is closed if the key does not end with a backslash. -/
theorem IsBlockRow.closed_opening (row : IsBlockRow key opening inside closing)
    (unescaped : key.getLast? ≠ some '\\') : isClosed opening = true := by
  obtain ⟨front, token, gap, lead, blankFront, reads, isGap, blankLead, rfl⟩ := row.exists_opening
  exact isClosed_entryOpening blankFront reads unescaped isGap blankLead

/-- Behind the brace of such a block, whether a literal is open is up to what the block holds. -/
theorem IsBlockRow.inString_scan {scanner : Scanner} {front : Text}
    (row : IsBlockRow key opening inside closing) (unescaped : key.getLast? ≠ some '\\')
    (outside : scanner.inString = false) (regular : Scanner.start.hasSurplus front = false) :
    (scanner.scan (opening ++ '{' :: front)).inString = (Scanner.start.scan front).inString := by
  have openingOutside := inString_scan_of_closed outside (row.closed_opening unescaped)
  obtain ⟨entered, -⟩ := Scanner.feed_opener openingOutside .brace
  have within := (Scanner.Within.start entered).scan (.inl regular)
  rw [Scanner.scan_append]
  exact within.inString_eq.symm

/-- A row that is a block has its interior between braces. -/
theorem exists_isBlockRow {row : Text} (whole : rows row = [row])
    (block : blockOfRow? row = some (key, inside)) : ∃ opening closing : Text,
      row = opening ++ '{' :: (inside ++ '}' :: closing) ∧
        IsBlockRow key opening inside closing := by
  simp only [blockOfRow?, Option.bind_eq_some_iff, Option.map_eq_some_iff, Prod.mk.injEq] at block
  obtain ⟨⟨_, value⟩, entry, interior, unwrapped, rfl, rfl⟩ := block
  obtain ⟨front, token, gap, tail, -, -, -, parts, rfl⟩ := entryOfRow?_eq_some_iff.mp entry
  obtain ⟨lead, back, blankLead, blankBack, tailParts⟩ := tail.exists_trimmed
  obtain ⟨innerLead, innerBack, blankInnerLead, blankInnerBack, valueParts⟩ :=
    tail.trim.exists_trimmed
  rw [unwrapBraces?_eq_some_iff.mp unwrapped] at valueParts
  have shape : tail = (lead ++ innerLead) ++ ('{' :: (interior ++ ['}'])) ++ (innerBack ++ back) := by
    rw [tailParts, valueParts]
    simp
  have blankEnd : (innerBack ++ back).isBlankText = true := by
    simp [blankInnerBack, blankBack]
  have trimmed : tail.trim = '{' :: (interior ++ ['}']) := by
    rw [shape, Text.trim_between (by simp [blankLead, blankInnerLead]) blankEnd]
    exact Text.trim_of_ends (by decide) (by decide)
  have same : row = (front ++ (token ++ (gap ++ ':' :: (lead ++ innerLead)))) ++
      '{' :: (interior ++ '}' :: (innerBack ++ back)) := by
    rw [parts, shape]
    simp
  rw [trimmed] at entry
  exact ⟨_, _, same, same ▸ whole, same ▸ entry, blankEnd⟩

end BlockRow

/-- The blocks of a body are what stands at the places of its blocks. -/
theorem mem_blocksOf_iff {key inside body : Text} : (key, inside) ∈ blocksOf body ↔
    ∃ before after, body = before ++ (inside ++ after) ∧ IsBlockAt key before inside after := by
  rw [blocksOf_eq_filterMap, List.mem_filterMap]
  constructor
  · rintro ⟨row, member, block⟩
    obtain ⟨front, back, rfl, begins, whole, ends⟩ := mem_rows_iff.mp member
    obtain ⟨opening, closing, rfl, blockRow⟩ := exists_isBlockRow whole block
    exact ⟨_, _, by simp, .intro begins blockRow ends⟩
  · rintro ⟨before, after, rfl, ⟨begins, blockRow, ends⟩⟩
    exact ⟨_, mem_rows_iff.mpr ⟨_, _, by simp, begins, blockRow.whole, ends⟩,
      blockRow.blockOfRow?_of_other inside⟩

/-- Where the fields of a signature are read: in the block of a name that has fields already, or in that
of a version. -/
inductive IsSignatureAt (signatureFields : List Text) (body page name : Text) :
    (version inside : Text) → Prop where
  | flat {pageBody inside : Text} (inBody : (page, pageBody) ∈ blocksOf body)
      (inPage : (name, inside) ∈ blocksOf pageBody)
      (field : ∃ entry ∈ entriesOf inside, entry.1 ∈ signatureFields) :
      IsSignatureAt signatureFields body page name defaultVersion inside
  | versioned {pageBody nameBody version inside : Text} (inBody : (page, pageBody) ∈ blocksOf body)
      (inPage : (name, nameBody) ∈ blocksOf pageBody)
      (noField : ¬∃ entry ∈ entriesOf nameBody, entry.1 ∈ signatureFields)
      (inName : (version, inside) ∈ blocksOf nameBody) :
      IsSignatureAt signatureFields body page name version inside

/-- The signatures of a body are what is read there. -/
theorem mem_signaturesOf_iff {signatureFields : List Text} {body : Text} {block : SignatureBlock} :
    block ∈ signaturesOf signatureFields body ↔ ∃ inside,
      IsSignatureAt signatureFields body block.page block.name block.version inside ∧
        block.fields = entriesOf inside := by
  have known : ∀ nameBody : Text,
      (entriesOf nameBody).any (fun entry => signatureFields.contains entry.1) = true ↔
        ∃ entry ∈ entriesOf nameBody, entry.1 ∈ signatureFields := by simp
  simp only [signaturesOf, List.mem_flatMap, Prod.exists, signaturesOfName]
  constructor
  · rintro ⟨page, pageBody, inBody, name, nameBody, inPage, found⟩
    split at found
    · rename_i field
      obtain rfl := List.mem_singleton.mp found
      exact ⟨nameBody, .flat inBody inPage ((known _).mp field), rfl⟩
    · rename_i noField
      obtain ⟨⟨version, inside⟩, inName, rfl⟩ := List.mem_map.mp found
      exact ⟨inside, .versioned inBody inPage (mt (known _).mpr noField) inName, rfl⟩
  · obtain ⟨page, name, version, fields⟩ := block
    rintro ⟨inside, signature, rfl⟩
    cases signature with
    | flat inBody inPage field =>
      refine ⟨page, _, inBody, name, inside, inPage, ?_⟩
      rw [if_pos ((known _).mpr field)]
      exact List.mem_singleton.mpr rfl
    | versioned inBody inPage noField inName =>
      refine ⟨page, _, inBody, name, _, inPage, ?_⟩
      rw [if_neg (mt (known _).mp noField)]
      exact List.mem_map.mpr ⟨_, inName, rfl⟩

end RouteCatalog
