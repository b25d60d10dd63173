import RouteCatalog.Proofs.Declaration
import RouteCatalog.Proofs.Entry
import RouteCatalog.Proofs.Separated
import RouteCatalog.Registry

/-!
# Written entries

How the entries of an interface or a literal are written, and that reading them gives them back.
`WritesKey` relates a token to the key that it writes. `entryOfRow?_written` reads one row, and
`entriesOf_written` reads rows that each end with a semicolon, whatever blanks stand between the
tokens.
-/

namespace RouteCatalog

/-- The token writes the key: in quotes, or as it is. -/
inductive WritesKey : (token key : Text) → Prop where
  | quoted {key : Text} (quote : Quote) (absent : quote.mark ∉ key)
      (unescaped : key.getLast? ≠ some '\\') : WritesKey (quote.around key) key
  | bare {key : Text} (nonempty : key ≠ []) (bare : key.all isBareKeyCharacter = true) :
      WritesKey key key

/-- A word is a key as it is. -/
theorem IsWordText.writesKey {word : Text} (isWordText : IsWordText word) : WritesKey word word := by
  refine .bare isWordText.1 (List.all_eq_true.mpr fun character member => ?_)
  simp [isBareKeyCharacter, List.all_eq_true.mp isWordText.2 character member]

namespace WritesKey

variable {token key following : Text}

/-- A written key is read. -/
theorem reads (writes : WritesKey token key) : ReadsKey token key := by
  cases writes with
  | quoted quote absent unescaped => exact .quoted quote absent
  | bare nonempty bare => exact .bare nonempty bare

/-- A written key does not end with a backslash. -/
theorem unescaped (writes : WritesKey token key) : key.getLast? ≠ some '\\' := by
  cases writes with
  | quoted quote absent unescaped => exact unescaped
  | bare nonempty bare =>
    intro last
    have member := List.all_eq_true.mp bare _ (List.mem_of_getLast? last)
    exact absurd member (by decide)

/-- The token of a key is closed. -/
theorem closed (writes : WritesKey token key) : isClosed token = true :=
  writes.reads.closed writes.unescaped

/-- The token of a key is not split into rows. -/
theorem whole (writes : WritesKey token key) : rows token = [token] := by
  cases writes with
  | quoted quote absent unescaped =>
    exact whole_around (by cases quote <;> decide) (Quote.encloses_of_not_mem absent unescaped)
  | bare nonempty bare =>
    apply whole_of_not_separator
    rw [List.all_eq_true]
    intro character member
    simpa using (isPlain_of_isBareKeyCharacter (List.all_eq_true.mp bare character member)).2

end WritesKey

/-- A word holds no comment. -/
theorem IsWordText.commentFree {word : Text} (isWordText : IsWordText word) :
    isCommentFree word = true :=
  isCommentFree_of_closed isWordText.writesKey.closed (isWordText.not_mem (by decide))

/-- A row of a key, a colon and a value, with blanks around the key. -/
theorem entryOfRow?_written {token key front back value : Text} (writes : WritesKey token key)
    (blankFront : front.isBlankText = true) (blankBack : back.isBlankText = true) :
    entryOfRow? (front ++ token ++ back ++ ':' :: value) = some (key, value.trim) :=
  entryOfRow?_eq_some_iff.mpr ⟨front, token, back, value, blankFront, writes.reads,
    .blank blankBack, by simp only [List.append_assoc], rfl⟩

/-- A row of blanks is no entry. -/
theorem entryOfRow?_of_blank {gap : Text} (blank : gap.isBlankText = true) :
    entryOfRow? gap = none := by
  simp [entryOfRow?, Text.trimStart_eq_nil_iff.mpr blank, keyOfRow?]

/-- Reading a row of a key, a colon and a value gives the key and the text of the value. -/
theorem entryOfRow?_spaced {token key row : Text} {value : List Text}
    (writes : WritesKey token key) (spaced : Spaced (token :: [':'] :: value) row) :
    ∃ text, Spaced value text ∧ entryOfRow? row = some (key, text.trim) := by
  cases spaced with
  | @token front _ _ _ blankFront _ spaced =>
    cases spaced with
    | @token back _ text _ blankBack _ spacedValue =>
      refine ⟨text, spacedValue, ?_⟩
      simpa only [List.append_assoc, List.singleton_append] using
        entryOfRow?_written writes blankFront blankBack

/-- The row of a key and a value is balanced. -/
theorem balanced_row {token key : Text} {value : List Text} (writes : WritesKey token key)
    (balanced : Balanced value) : Balanced (token :: [':'] :: value) := by
  have colon : isClosed [':'] = true := by decide
  exact .token writes.closed (.token colon balanced)

/-- The row of a key and a value is not split if the value is not split. -/
theorem unsplit_row {token key : Text} {value : List Text} (writes : WritesKey token key)
    (unsplit : Unsplit isRowSeparator value) :
    Unsplit isRowSeparator (token :: [':'] :: value) := by
  have colon : isClosed [':'] = true ∧ rows [':'] = [[':']] := by decide
  exact .token isSeparating_rows writes.closed writes.whole
    (.token isSeparating_rows colon.1 colon.2 unsplit)

/-- The tokens of an entry that ends with a semicolon. -/
def entryTokens (token : Text) (value : List Text) : List Text :=
  token :: [':'] :: (value ++ [[';']])

section Written

variable {α : Type} {items : List α} {token key : α → Text} {body : Text}

/-- Reading rows gives, for each, its key and the text of its value. -/
theorem filterMap_entryOfRow?_spaced {value : α → List Text} {found : List Text}
    (writes : ∀ item ∈ items, WritesKey (token item) (key item))
    (spaced : List.Forall₂ (fun item row => Spaced (token item :: [':'] :: value item) row) items
      found) :
    List.Forall₂ (fun item entry => entry.1 = key item ∧
      ∃ text, Spaced (value item) text ∧ entry.2 = text.trim) items
        (found.filterMap entryOfRow?) := by
  induction spaced with
  | nil => exact .nil
  | cons first _ inductionHypothesis =>
    obtain ⟨text, spacedValue, read⟩ := entryOfRow?_spaced (writes _ (by simp)) first
    rw [List.filterMap_cons, read]
    exact .cons ⟨rfl, text, spacedValue, rfl⟩
      (inductionHypothesis fun other member => writes other (by simp [member]))

/-- Reading rows that end with semicolons gives, for each, its key and the text of its value. -/
theorem entriesOf_written {value : α → List Text}
    (writes : ∀ item ∈ items, WritesKey (token item) (key item))
    (balanced : ∀ item ∈ items, Balanced (value item))
    (unsplit : ∀ item ∈ items, Unsplit isRowSeparator (value item))
    (spaced : Spaced (items.flatMap fun item => entryTokens (token item) (value item)) body) :
    List.Forall₂ (fun item entry => entry.1 = key item ∧
      ∃ text, Spaced (value item) text ∧ entry.2 = text.trim) items (entriesOf body) := by
  induction items generalizing body with
  | nil =>
    cases spaced with
    | done blank =>
      simp [entriesOf, rows, splitTopLevel_of_blank isSeparating_rows blank,
        entryOfRow?_of_blank blank]
  | cons item rest inductionHypothesis =>
    have tokens : (item :: rest).flatMap (fun item => entryTokens (token item) (value item)) =
        (token item :: [':'] :: value item) ++
          [';'] :: rest.flatMap fun item => entryTokens (token item) (value item) := by
      simp [entryTokens]
    rw [tokens] at spaced
    obtain ⟨row, after, rfl, spacedRow, -, spacedRest⟩ := spaced.split
    have here := writes item (by simp)
    have closed := spacedRow.closed (balanced_row here (balanced item (by simp)))
    have whole := unsplit_row here (unsplit item (by simp)) row spacedRow
    have following := inductionHypothesis (fun other member => writes other (by simp [member]))
      (fun other member => balanced other (by simp [member]))
      (fun other member => unsplit other (by simp [member])) spacedRest
    obtain ⟨text, spacedValue, read⟩ := entryOfRow?_spaced here spacedRow
    rw [List.append_assoc, List.singleton_append, entriesOf, rows,
      splitTopLevel_cons rfl rfl closed whole, List.filterMap_cons, read]
    exact .cons ⟨rfl, text, spacedValue, rfl⟩ following

/-- Blanks around a group of delimiters leave the interior between the delimiters. -/
theorem Spaced.trim_group {inside : List Text} {text : Text} (kind : Delimiter)
    (spaced : Spaced ([kind.opener] :: (inside ++ [[kind.closer]])) text) :
    ∃ interior, Spaced inside interior ∧
      text.trim = kind.opener :: (interior ++ [kind.closer]) := by
  cases spaced with
  | @token gap _ _ _ blank _ rest =>
    obtain ⟨interior, after, rfl, spacedInside, _, spacedAfter⟩ := rest.split
    cases spacedAfter with
    | done blankBack =>
      have trimmed : Text.trim (gap ++ kind.opener :: (interior ++ [kind.closer]) ++ after) =
          kind.opener :: (interior ++ [kind.closer]) :=
        (Text.trim_between blank blankBack).trans
          (Text.trim_of_ends (by cases kind <;> decide) (by cases kind <;> decide))
      exact ⟨interior, spacedInside, by simpa using trimmed⟩

/-- A block in braces, with blanks around it, is unwrapped to its interior. -/
theorem unwrapBraces?_spaced {inside : List Text} {text : Text}
    (spaced : Spaced (['{'] :: (inside ++ [['}']])) text) :
    ∃ interior, Spaced inside interior ∧ unwrapBraces? text.trim = some interior ∧
      unwrapBraces? text = some interior := by
  obtain ⟨interior, spacedInside, trimmed⟩ := Spaced.trim_group .brace spaced
  refine ⟨interior, spacedInside, unwrapBraces?_eq_some_iff.mpr ?_,
    unwrapBraces?_eq_some_iff.mpr trimmed⟩
  rw [trimmed]
  exact Text.trim_of_ends (by decide) (by decide)

/-- Reading rows whose values are blocks gives, for each, its key and the text of its interior. -/
theorem blocksOf_written {inside : α → List Text}
    (writes : ∀ item ∈ items, WritesKey (token item) (key item))
    (balanced : ∀ item ∈ items, Balanced (inside item))
    (spaced : Spaced (items.flatMap fun item =>
      entryTokens (token item) (['{'] :: (inside item ++ [['}']]))) body) :
    List.Forall₂ (fun item block => block.1 = key item ∧ Spaced (inside item) block.2) items
      (blocksOf body) := by
  have entries := entriesOf_written writes
    (fun item member => by simpa using Balanced.group .brace (balanced item member) .nil)
    (fun item member => .group .brace isSeparating_rows (balanced item member)) spaced
  rw [blocksOf]
  generalize entriesOf body = found at entries
  clear spaced writes balanced
  induction entries with
  | nil => exact .nil
  | @cons item entry items entries read _ inductionHypothesis =>
    obtain ⟨sameKey, text, spaced, sameValue⟩ := read
    obtain ⟨interior, spacedInside, unwrapped, -⟩ := unwrapBraces?_spaced spaced
    rw [← sameValue] at unwrapped
    rw [List.filterMap_cons]
    simp only [unwrapped, Option.map_some]
    exact .cons ⟨sameKey, spacedInside⟩ inductionHypothesis

end Written

section Block

variable {token key inside : Text}

/-- A key, a colon and a block of a closed text are closed. -/
theorem isClosed_block (writes : WritesKey token key) (closed : isClosed inside = true) :
    isClosed (token ++ ':' :: ' ' :: '{' :: (inside ++ ['}'])) = true :=
  isClosed_append writes.closed
    (isClosed_cons (by decide) (isClosed_cons (by decide) (isClosed_group .brace closed)))

/-- A body of one block has the block as its only entry. -/
theorem entriesOf_block (writes : WritesKey token key) (closed : isClosed inside = true) :
    entriesOf (token ++ ':' :: ' ' :: '{' :: (inside ++ ['}'])) =
      [(key, '{' :: (inside ++ ['}']))] := by
  have space : Text.isBlankText [' '] = true := by decide
  have colon : isClosed [':', ' '] = true ∧ rows [':', ' '] = [[':', ' ']] := by decide
  have group : rows ('{' :: (inside ++ ['}'])) = ['{' :: (inside ++ ['}'])] :=
    whole_group .brace rfl closed
  have whole : rows (token ++ ':' :: ' ' :: '{' :: (inside ++ ['}'])) = [_] :=
    whole_append writes.closed writes.whole (whole_append colon.1 colon.2 group)
  have value : Text.trim ([' '] ++ '{' :: (inside ++ ['}'])) = '{' :: (inside ++ ['}']) := by
    rw [Text.trim_blank_append space, Text.trim_of_ends (by decide) (by decide)]
  have read : entryOfRow? ([] ++ token ++ [] ++ ':' :: ([' '] ++ '{' :: (inside ++ ['}']))) =
      some (key, '{' :: (inside ++ ['}'])) := by
    rw [entryOfRow?_written writes rfl rfl, value]
  rw [List.nil_append, List.append_nil, List.singleton_append] at read
  rw [entriesOf, whole, List.filterMap_cons, List.filterMap_nil, read]

/-- A body of one block has what stands between its braces as the only block. -/
theorem blocksOf_block (writes : WritesKey token key) (closed : isClosed inside = true) :
    blocksOf (token ++ ':' :: ' ' :: '{' :: (inside ++ ['}'])) = [(key, inside)] := by
  have unwrapped : unwrapBraces? ('{' :: (inside ++ ['}'])) = some inside :=
    unwrapBraces?_eq_some_iff.mpr (Text.trim_of_ends (by decide) (by decide))
  simp only [blocksOf, entriesOf_block writes closed, List.filterMap_cons, unwrapped,
    Option.map_some, List.filterMap_nil]

end Block

end RouteCatalog
