import RouteCatalog.Proofs.Registry.Block

/-!
# Malformed rows in a registry

A malformed row at a row boundary of a map, of the block of a page or of the block of a name with
versions leaves all signatures as they are: `signaturesOf_insertion`. Around the row the rows of the
body stay what they are, since the row is closed and stands where the scan is outside every literal.
The key of a block may break this: a quote behind a backslash ends the key but not the literal that
the scan is in, so a row with quotes of its own ends that literal elsewhere.
-/

namespace RouteCatalog

/-- A row and a semicolon are put at a row boundary of a host, which is the body or what the block
holds that a path of keys leads to. -/
inductive Insertion (row host : Text) : (path : List Text) → (body inserted : Text) → Prop where
  | here {front back : Text} (same : host = front ++ back) (boundary : IsRowBoundary front) :
      Insertion row host [] host (front ++ (row ++ ';' :: back))
  | within {key before inside inserted after : Text} {path : List Text}
      (block : IsBlockAt key before inside after) (inner : Insertion row host path inside inserted) :
      Insertion row host (key :: path) (before ++ (inside ++ after)) (before ++ (inserted ++ after))

/-- The blocks of a body are closed, and so are the blocks in them down to a depth. -/
def HasClosedBlocks : (depth : Nat) → (body : Text) → Prop
  | 0, _ => True
  | depth + 1, body =>
    ∀ block ∈ blocksOf body, isClosed block.2 = true ∧ HasClosedBlocks depth block.2

instance HasClosedBlocks.decidable :
    (depth : Nat) → (body : Text) → Decidable (HasClosedBlocks depth body)
  | 0, _ => inferInstanceAs (Decidable True)
  | depth + 1, body =>
    have : ∀ block : Text × Text, Decidable (HasClosedBlocks depth block.2) :=
      fun block => HasClosedBlocks.decidable depth block.2
    inferInstanceAs (Decidable (∀ block ∈ blocksOf body,
      isClosed block.2 = true ∧ HasClosedBlocks depth block.2))

/-- A row that is closed and not split, and is no block. -/
structure IsMalformedRow (row : Text) : Prop where
  closed : isClosed row = true
  whole : rows row = [row]
  noBlock : ∀ entry, entryOfRow? row = some entry → unwrapBraces? entry.2 = none

section Boundary

variable {row front back : Text}

/-- A row that is no entry is malformed if it is closed and not split. -/
theorem IsMalformedRow.of_noEntry (closed : isClosed row = true) (whole : rows row = [row])
    (noEntry : entryOfRow? row = none) : IsMalformedRow row :=
  ⟨closed, whole, fun entry read => by rw [noEntry] at read; cases read⟩

/-- At a row boundary a malformed row gives one more entry at most. -/
theorem IsMalformedRow.entriesOf_insert (malformed : IsMalformedRow row)
    (boundary : IsRowBoundary front) (back : Text) :
    ∃ earlier later, entriesOf (front ++ back) = earlier ++ later ∧
      entriesOf (front ++ (row ++ ';' :: back)) =
        earlier ++ ((entryOfRow? row).toList ++ later) := by
  obtain ⟨before, rowsBefore⟩ := boundary.rows_append
  have rowsBehind : rows (row ++ ';' :: back) = row :: rows back :=
    splitTopLevel_cons rfl (by decide) malformed.closed malformed.whole
  refine ⟨before.filterMap entryOfRow?, entriesOf back, ?_, ?_⟩
  · rw [entriesOf, rowsBefore, List.filterMap_append]
    rfl
  · rw [entriesOf, rowsBefore, rowsBehind, List.filterMap_append, List.filterMap_cons, entriesOf]
    cases entryOfRow? row <;> rfl

/-- At a row boundary a malformed row leaves the blocks of the body. -/
theorem IsMalformedRow.blocksOf_insert (malformed : IsMalformedRow row)
    (boundary : IsRowBoundary front) :
    blocksOf (front ++ (row ++ ';' :: back)) = blocksOf (front ++ back) := by
  obtain ⟨earlier, later, original, altered⟩ := malformed.entriesOf_insert boundary back
  rw [blocksOf, blocksOf, original, altered]
  simp only [List.filterMap_append, List.append_cancel_left_eq]
  cases read : entryOfRow? row with
  | none => rfl
  | some entry => simp [malformed.noBlock entry read]

/-- At a row boundary of a name with versions, a malformed row whose key is no field leaves the
signatures. -/
theorem IsMalformedRow.signaturesOfName_insert {signatureFields : List Text} {page name : Text}
    (malformed : IsMalformedRow row) (boundary : IsRowBoundary front)
    (versioned : ∀ entry ∈ entriesOf (front ++ back), entry.1 ∉ signatureFields)
    (otherKey : ∀ entry, entryOfRow? row = some entry → entry.1 ∉ signatureFields) :
    signaturesOfName signatureFields page name (front ++ (row ++ ';' :: back)) =
      signaturesOfName signatureFields page name (front ++ back) := by
  obtain ⟨earlier, later, original, altered⟩ := malformed.entriesOf_insert boundary back
  have noField : (entriesOf (front ++ back)).any
      (fun entry => signatureFields.contains entry.1) = false := by
    simpa using versioned
  have stillNoField : (entriesOf (front ++ (row ++ ';' :: back))).any
      (fun entry => signatureFields.contains entry.1) = false := by
    rw [original] at noField
    rw [altered]
    simp only [List.any_append, Bool.or_eq_false_iff] at noField ⊢
    refine ⟨noField.1, ?_, noField.2⟩
    cases read : entryOfRow? row with
    | none => rfl
    | some entry => simpa using otherKey entry read
  simp only [signaturesOfName, noField, stillNoField, malformed.blocksOf_insert boundary,
    Bool.false_eq_true, if_false]

end Boundary

/-- Nothing stands before a place, or a brace that opens or a separator. -/
def IsPlace (front : Text) : Prop :=
  front = [] ∨ ∃ before last, front = before ++ [last] ∧ (last = '{' ∨ isRowSeparator last = true)

/-- A row boundary is a place outside every literal. -/
theorem IsRowBoundary.place {front : Text} (boundary : IsRowBoundary front) :
    IsPlace front ∧ (Scanner.start.scan front).inString = false := by
  have top := boundary.top
  simp only [Scanner.atTopLevel, Bool.and_eq_true, Bool.not_eq_true'] at top
  refine ⟨?_, top.1⟩
  cases boundary with
  | start => exact .inl rfl
  | behind separates => exact .inr ⟨_, _, rfl, .inr separates⟩

section Nested

variable {scanner : Scanner}

/-- Behind a brace that opens, the scan is not at top level, be the brace in a literal or not. -/
theorem atTopLevel_feed_brace (scanner : Scanner) : (scanner.feed '{').atTopLevel = false := by
  cases quoted : scanner.inString with
  | true =>
    obtain ⟨quote, inside⟩ := Option.isSome_iff_exists.mp quoted
    have unmarked : ∀ character ∈ ['{'], Quote.ofMark? character = none :=
      List.forall_mem_singleton.mpr rfl
    obtain ⟨stays, -⟩ := scan_of_unmarked inside unmarked
    simp only [Scanner.scan_cons, Scanner.scan_nil] at stays
    simp [Scanner.atTopLevel, Scanner.inString, Literal.isOpen, stays]
  | false =>
    obtain ⟨-, entered⟩ := Scanner.feed_opener quoted .brace
    have level : (scanner.feed '{').nesting.depth ≠ 0 := by
      rw [show '{' = Delimiter.brace.opener from rfl, entered]
      simp [Nesting.enter, Nesting.depth]
    simp [Scanner.atTopLevel, Scanner.depth, level]

/-- A separator leaves the scan below top level. -/
theorem atTopLevel_feed_separator {separator : Char}
    (separates : isRowSeparator separator = true) (nested : scanner.atTopLevel = false) :
    (scanner.feed separator).atTopLevel = false := by
  have plain := isPlain_of_isRowSeparator separates
  cases quoted : scanner.inString with
  | true =>
    obtain ⟨quote, inside⟩ := Option.isSome_iff_exists.mp quoted
    have unmarked : ∀ character ∈ [separator], Quote.ofMark? character = none := by
      simp only [isPlain, Bool.and_eq_true, Option.isNone_iff_eq_none] at plain
      simpa using plain.1.1
    obtain ⟨stays, -⟩ := scan_of_unmarked inside unmarked
    simp only [Scanner.scan_cons, Scanner.scan_nil] at stays
    simp [Scanner.atTopLevel, Scanner.inString, Literal.isOpen, stays]
  | false =>
    obtain ⟨outside, level⟩ := Scanner.feed_plain quoted plain
    simpa [Scanner.atTopLevel, Scanner.depth, outside, level, quoted] using nested

/-- At a place behind what opens a block, the row of the block is not at top level. -/
theorem IsPlace.nested {front opening rest : Text} (place : IsPlace front)
    (whole : rows (opening ++ '{' :: (front ++ rest)) = [opening ++ '{' :: (front ++ rest)]) :
    (Scanner.start.scan (opening ++ '{' :: front)).atTopLevel = false ∧
      (Scanner.start.scan (opening ++ '{' :: front)).literal.previous ≠ some '\\' := by
  rcases place with rfl | ⟨before, last, rfl, rfl | separates⟩
  · rw [Scanner.scan_append]
    exact ⟨atTopLevel_feed_brace _, by simp [Scanner.feed]⟩
  · rw [← List.cons_append, ← List.append_assoc, Scanner.scan_append]
    exact ⟨atTopLevel_feed_brace _, by simp [Scanner.feed]⟩
  · have parts : splitFrom isRowSeparator .start (opening ++ '{' :: before ++ last :: rest) =
        [opening ++ '{' :: before ++ last :: rest] := by simpa [rows, splitTopLevel] using whole
    have nested := atTopLevel_of_whole separates parts
    have unescaped : last ≠ '\\' := by
      rintro rfl
      exact absurd separates (by decide)
    rw [← List.cons_append, ← List.append_assoc, Scanner.scan_append]
    exact ⟨atTopLevel_feed_separator separates nested, by simpa [Scanner.feed] using unescaped⟩

end Nested

section Block

variable {row host key opening closing before inside after front back body inserted : Text}
variable {path : List Text}

/-- What makes a closed row at a place of a block harmless: it has no quotes, or the scan is outside
every literal there and the key of the block does not end with a backslash. -/
def IsHarmless (row key front : Text) : Prop :=
  (∀ character ∈ row, Quote.ofMark? character = none) ∨
    key.getLast? ≠ some '\\' ∧ Scanner.start.hasSurplus front = false ∧
      (Scanner.start.scan front).inString = false

/-- A harmless row at a place in a block is put into the row of the block, and the rows behind it
stay. -/
theorem IsBlockRow.rows_insert {rest : Text} {later : List Text}
    (blockRow : IsBlockRow key opening (front ++ back) closing) (place : IsPlace front)
    (closed : isClosed row = true) (harmless : IsHarmless row key front)
    (found : rows (opening ++ '{' :: (front ++ back ++ '}' :: (closing ++ rest))) =
      (opening ++ '{' :: (front ++ back ++ '}' :: closing)) :: later) :
    rows (opening ++ '{' :: (front ++ (row ++ ';' :: back) ++ '}' :: (closing ++ rest))) =
      (opening ++ '{' :: (front ++ (row ++ ';' :: back) ++ '}' :: closing)) :: later := by
  have whole : rows (opening ++ '{' :: (front ++ (back ++ '}' :: closing))) =
      [opening ++ '{' :: (front ++ (back ++ '}' :: closing))] := by
    simpa using blockRow.whole
  obtain ⟨nested, unescaped⟩ := place.nested whole
  have opened : splitFrom isRowSeparator .start (opening ++ '{' :: front) =
      [opening ++ '{' :: front] := by
    refine whole_of_append (?_ : _ = [opening ++ '{' :: front ++ (back ++ '}' :: closing)])
    simpa [rows, splitTopLevel] using whole
  have undisturbed : (Scanner.start.scan (opening ++ '{' :: front)).inString = false ∨
      (∀ character ∈ row, Quote.ofMark? character = none) ∧
        (Scanner.start.scan (opening ++ '{' :: front)).literal.previous ≠ some '\\' := by
    rcases harmless with unmarked | ⟨regularKey, regular, outside⟩
    · exact .inr ⟨unmarked, unescaped⟩
    · exact .inl ((blockRow.inString_scan regularKey Scanner.inString_start regular).trans outside)
  -- Both texts are cut where the scan of what they begin with in common cuts them.
  have original := splitFrom_append opened (back ++ '}' :: (closing ++ rest))
  have altered := splitFrom_append opened (row ++ ';' :: (back ++ '}' :: (closing ++ rest)))
  rw [splitFrom_insert nested closed undisturbed] at altered
  obtain ⟨first, others, parts⟩ := List.exists_cons_of_ne_nil (splitFrom_ne_nil isRowSeparator
    (Scanner.start.scan (opening ++ '{' :: front)) (back ++ '}' :: (closing ++ rest)))
  rw [parts] at original altered
  simp only [List.modifyHead_cons] at original altered
  have shape : opening ++ '{' :: (front ++ back ++ '}' :: (closing ++ rest)) =
      opening ++ '{' :: front ++ (back ++ '}' :: (closing ++ rest)) := by simp
  rw [shape, rows, splitTopLevel, original, List.cons.injEq] at found
  obtain ⟨sameRow, rfl⟩ := found
  have firstPart : first = back ++ '}' :: closing := by simpa using sameRow
  rw [rows, splitTopLevel]
  simpa [firstPart] using altered

/-- A harmless row at a place in a block gives the same blocks, with the row in that block. -/
theorem IsBlockAt.blocksOf_insert (block : IsBlockAt key before (front ++ back) after)
    (place : IsPlace front) (closed : isClosed row = true) (harmless : IsHarmless row key front) :
    ∃ earlier later,
      blocksOf (before ++ (front ++ back ++ after)) = earlier ++ (key, front ++ back) :: later ∧
      blocksOf (before ++ (front ++ (row ++ ';' :: back) ++ after)) =
        earlier ++ (key, front ++ (row ++ ';' :: back)) :: later := by
  generalize interior : front ++ back = inside at block
  cases block with
  | @intro lead opening _ closing rest begins blockRow ends =>
    subst interior
    obtain ⟨earlier, rowsBefore⟩ := begins.rows_append
    obtain ⟨later, rowsBehind⟩ := ends.rows_append blockRow.whole
    have original : rows (opening ++ '{' :: (front ++ back ++ '}' :: (closing ++ rest))) =
        (opening ++ '{' :: (front ++ back ++ '}' :: closing)) :: later := by
      simpa using rowsBehind
    have altered := blockRow.rows_insert place closed harmless original
    have blocks : ∀ other : Text,
        rows (opening ++ '{' :: (other ++ '}' :: (closing ++ rest))) =
          (opening ++ '{' :: (other ++ '}' :: closing)) :: later →
        blocksOf (lead ++ (opening ++ ['{']) ++ (other ++ '}' :: (closing ++ rest))) =
          earlier.filterMap blockOfRow? ++ (key, other) :: later.filterMap blockOfRow? := by
      intro other rowsOf
      have text : lead ++ (opening ++ ['{']) ++ (other ++ '}' :: (closing ++ rest)) =
          lead ++ (opening ++ '{' :: (other ++ '}' :: (closing ++ rest))) := by simp
      rw [text, blocksOf_eq_filterMap, rowsBefore, rowsOf, List.filterMap_append,
        List.filterMap_cons, blockRow.blockOfRow?_of_other other]
    exact ⟨_, _, blocks _ original, blocks _ altered⟩

/-- An insertion puts the row at a place of the body. Behind keys that do not end with a backslash
that place is outside every literal. -/
theorem Insertion.exists_place (insertion : Insertion row host path body inserted)
    (closed : HasClosedBlocks path.length body) :
    ∃ front back, body = front ++ back ∧ inserted = front ++ (row ++ ';' :: back) ∧
      IsPlace front ∧ ((∀ key ∈ path, key.getLast? ≠ some '\\') →
        (Scanner.start.scan front).inString = false) := by
  induction insertion with
  | @here front back same boundary =>
    obtain ⟨place, outside⟩ := boundary.place
    exact ⟨front, back, same, rfl, place, fun _ => outside⟩
  | @within key before inside inserted after path block inner inductionHypothesis =>
    obtain ⟨insideClosed, nestedClosed⟩ := closed _ (mem_blocksOf_iff.mpr ⟨_, _, rfl, block⟩)
    obtain ⟨front, back, rfl, rfl, place, outside⟩ := inductionHypothesis nestedClosed
    refine ⟨before ++ front, back ++ after, by simp, by simp, ?_, ?_⟩
    · rcases place with rfl | ⟨earlier, last, rfl, marks⟩
      · cases block with
        | @intro lead opening => exact .inr ⟨lead ++ opening, '{', by simp, .inl rfl⟩
      · exact .inr ⟨before ++ earlier, last, by simp, marks⟩
    · intro unescaped
      have regular := hasSurplus_of_closed_append insideClosed
      generalize front ++ back = interior at block
      cases block with
      | intro begins blockRow =>
        rw [List.append_assoc, List.append_assoc, Scanner.scan_append, List.singleton_append,
          blockRow.inString_scan (unescaped key (by simp)) begins.place.2 regular]
        exact outside fun other member => unescaped other (by simp [member])

/-- An insertion below the first block of its path changes nothing but what that block holds. -/
theorem Insertion.exists_blocks {inner : Text} (malformed : IsMalformedRow row)
    (block : IsBlockAt key before inside after) (insertion : Insertion row host path inside inner)
    (closed : HasClosedBlocks (path.length + 1) (before ++ (inside ++ after)))
    (unescaped : (∀ character ∈ row, Quote.ofMark? character = none) ∨
      ∀ other ∈ key :: path, other.getLast? ≠ some '\\') :
    ∃ earlier later, blocksOf (before ++ (inside ++ after)) = earlier ++ (key, inside) :: later ∧
      blocksOf (before ++ (inner ++ after)) = earlier ++ (key, inner) :: later := by
  obtain ⟨insideClosed, nestedClosed⟩ := closed _ (mem_blocksOf_iff.mpr ⟨_, _, rfl, block⟩)
  obtain ⟨front, back, rfl, rfl, place, outside⟩ := insertion.exists_place nestedClosed
  exact block.blocksOf_insert place malformed.closed (unescaped.imp_right fun regular =>
    ⟨regular key (by simp), hasSurplus_of_closed_append insideClosed,
      outside fun other member => regular other (by simp [member])⟩)

end Block

section Signatures

variable {signatureFields : List Text} {row host body inserted : Text} {path : List Text}

/-- A malformed row in the block of a page leaves the signatures of the page. -/
theorem signaturesOfPage_insertion (page : Text)
    (insertion : Insertion row host path body inserted) (levels : path.length ≤ 1)
    (malformed : IsMalformedRow row) (closed : HasClosedBlocks path.length body)
    (versioned : path.length = 1 → (∀ entry ∈ entriesOf host, entry.1 ∉ signatureFields) ∧
      ∀ entry, entryOfRow? row = some entry → entry.1 ∉ signatureFields)
    (unescaped : (∀ character ∈ row, Quote.ofMark? character = none) ∨
      ∀ key ∈ path, key.getLast? ≠ some '\\') :
    ((blocksOf inserted).flatMap fun (name, nameBody) =>
        signaturesOfName signatureFields page name nameBody) =
      (blocksOf body).flatMap fun (name, nameBody) =>
        signaturesOfName signatureFields page name nameBody := by
  cases insertion with
  | here same boundary =>
    subst same
    rw [malformed.blocksOf_insert boundary]
  | within block inner =>
    obtain ⟨earlier, later, original, altered⟩ :=
      Insertion.exists_blocks malformed block inner closed unescaped
    cases inner with
    | within => simp only [List.length_cons] at levels; omega
    | here same boundary =>
      obtain ⟨noField, otherKey⟩ := versioned rfl
      rw [original, altered]
      subst same
      simp only [List.flatMap_append, List.flatMap_cons,
        malformed.signaturesOfName_insert boundary noField otherKey]

/-- A malformed row at a row boundary of a map, of the block of a page or of the block of a name with
versions leaves all signatures as they are. -/
theorem signaturesOf_insertion (insertion : Insertion row host path body inserted)
    (levels : path.length ≤ 2) (malformed : IsMalformedRow row)
    (closed : HasClosedBlocks path.length body)
    (versioned : path.length = 2 → (∀ entry ∈ entriesOf host, entry.1 ∉ signatureFields) ∧
      ∀ entry, entryOfRow? row = some entry → entry.1 ∉ signatureFields)
    (unescaped : (∀ character ∈ row, Quote.ofMark? character = none) ∨
      ∀ key ∈ path, key.getLast? ≠ some '\\') :
    signaturesOf signatureFields inserted = signaturesOf signatureFields body := by
  cases insertion with
  | here same boundary =>
    subst same
    simp only [signaturesOf, malformed.blocksOf_insert boundary]
  | within block inner =>
    obtain ⟨earlier, later, original, altered⟩ :=
      Insertion.exists_blocks malformed block inner closed unescaped
    have page := fun page => signaturesOfPage_insertion page inner (by simpa using levels) malformed
      (closed _ (mem_blocksOf_iff.mpr ⟨_, _, rfl, block⟩)).2
      (fun nested => versioned (by simp [nested]))
      (unescaped.imp_right fun regular key member => regular key (List.mem_cons_of_mem _ member))
    rw [signaturesOf, signaturesOf, original, altered]
    simp only [List.flatMap_append, List.flatMap_cons, page]

/-- A row with a literal, between the versions of a name. -/
theorem signaturesOf_insertion_at_version :
    signaturesOf endpointFields
        "'rooms':\x7blist:\x7bv1:\x7binput:A\x7d;oops 'a;b';v2:\x7binput:B\x7d\x7d\x7d".toList =
      signaturesOf endpointFields
        "'rooms':\x7blist:\x7bv1:\x7binput:A\x7d;v2:\x7binput:B\x7d\x7d\x7d".toList := by
  have noEntry : entryOfRow? "oops 'a;b'".toList = none := by decide
  have page : IsBlockRow "rooms".toList "'rooms':".toList
      "list:\x7bv1:\x7binput:A\x7d;v2:\x7binput:B\x7d\x7d".toList [] :=
    ⟨by decide, by decide, rfl⟩
  have name : IsBlockRow "list".toList "list:".toList
      "v1:\x7binput:A\x7d;v2:\x7binput:B\x7d".toList [] := ⟨by decide, by decide, rfl⟩
  have boundary : IsRowBoundary ("v1:\x7binput:A\x7d".toList ++ [';']) := .behind rfl (by decide)
  have insertion : Insertion "oops 'a;b'".toList "v1:\x7binput:A\x7d;v2:\x7binput:B\x7d".toList
      ["rooms".toList, "list".toList] _ _ :=
    .within (.intro .start page .final) (.within (.intro .start name .final)
      (.here (by decide : _ = _ ++ "v2:\x7binput:B\x7d".toList) boundary))
  exact signaturesOf_insertion insertion (by decide) (.of_noEntry (by decide) (by decide) noEntry)
    (by decide) (fun _ => ⟨by decide, by simp only [noEntry]; nofun⟩) (.inr (by decide))

/-- Behind a key that ends with a backslash a malformed row with a literal loses the page. -/
theorem not_signaturesOf_insertion_of_escaped : ∃ row host path body inserted,
    Insertion row host path body inserted ∧ path.length = 1 ∧ IsMalformedRow row ∧
      HasClosedBlocks 3 body ∧
      signaturesOf endpointFields inserted ≠ signaturesOf endpointFields body := by
  have page : IsBlockRow "a\\".toList "'a\\': ".toList
      " x: \x7b v: \x7b input: A; output: B \x7d \x7d ".toList [] := ⟨by decide, by decide, rfl⟩
  exact ⟨"'b;c'".toList, _, _, _, _, .within (.intro .start page .final) (.here rfl .start), rfl,
    .of_noEntry (by decide) (by decide) (by decide), by decide, by decide⟩

end Signatures

end RouteCatalog
