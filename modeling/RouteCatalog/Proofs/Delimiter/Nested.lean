import RouteCatalog.Proofs.Delimiter.Whole

/-!
# Properly nested texts

A `NestedText` is a sequence of characters, string literals and groups, and every group holds such a
sequence. What it writes is closed (`NestedText.isClosed_text`): the three counts, of which only the sum is
looked at where a block ends, go up and down together. So the block of an opener ends with the closer of
that opener, and does not end if there is none (`blockEnd?_nested`).
-/

namespace RouteCatalog

/-- A text whose groups are nested one in another, each opened and closed by delimiters of one kind. -/
inductive NestedText where
  | done
  | plain (character : Char) (isPlain : isPlain character = true) (rest : NestedText)
  | literal (quote : Quote) (content : Text) (enclosed : quote.encloses content = true)
      (rest : NestedText)
  | group (kind : Delimiter) (inside rest : NestedText)

/-- The text as it is written. -/
def NestedText.text : NestedText → Text
  | done => []
  | plain character _ rest => character :: rest.text
  | literal quote content _ rest => quote.around content ++ rest.text
  | group kind inside rest => kind.opener :: (inside.text ++ kind.closer :: rest.text)

/-- Groups that are opened one after another, each with a nested text behind its opener, and not
closed. -/
def openGroups (groups : List (Delimiter × NestedText)) : Text :=
  groups.flatMap fun group => group.1.opener :: group.2.text

/-- A nested text is closed. -/
theorem NestedText.isClosed_text (nested : NestedText) : isClosed nested.text = true := by
  induction nested with
  | done => rfl
  | plain character isPlain rest closedRest => exact isClosed_cons isPlain closedRest
  | literal quote content enclosed rest closedRest =>
    exact isClosed_append (isClosed_around enclosed) closedRest
  | group kind inside rest closedInside closedRest =>
    have parts : (group kind inside rest).text =
        (kind.opener :: (inside.text ++ [kind.closer])) ++ rest.text := by
      simp [text]
    rw [parts]
    exact isClosed_append (isClosed_group kind closedInside) closedRest

/-- Groups that are only opened hold no surplus closer. -/
theorem hasSurplus_openGroups {scanner : Scanner} (outside : scanner.inString = false)
    (groups : List (Delimiter × NestedText)) : scanner.hasSurplus (openGroups groups) = false := by
  induction groups generalizing scanner with
  | nil => rfl
  | cons group groups inductionHypothesis =>
    obtain ⟨kind, inside⟩ := group
    have opener : scanner.isSurplus kind.opener = false := by
      simp [Scanner.isSurplus, Delimiter.ofCloser?_opener]
    have entered := (Scanner.feed_opener outside kind).1
    have regular : (scanner.feed kind.opener).hasSurplus inside.text = false :=
      hasSurplus_of_within (.start entered) (isClosed_iff.mp inside.isClosed_text).1
    have further := inductionHypothesis (inString_scan_of_closed entered inside.isClosed_text)
    change scanner.hasSurplus (kind.opener :: (inside.text ++ openGroups groups)) = false
    rw [Scanner.hasSurplus, opener, Scanner.hasSurplus_append, regular, further]
    rfl

/-- The block of an opener ends with the closer behind the nested text that follows the opener, whatever
stands before and behind it. If no closer follows, but the end of the text or groups that are not closed
either, the block does not end. -/
theorem blockEnd?_nested (front : Text) (kind : Delimiter) (inside : NestedText) :
    (∀ back : Text,
      blockEnd? (front ++ kind.opener :: (inside.text ++ kind.closer :: back)) front.length =
        some (front.length + 1 + inside.text.length)) ∧
    ∀ groups : List (Delimiter × NestedText),
      blockEnd? (front ++ kind.opener :: (inside.text ++ openGroups groups)) front.length = none := by
  constructor
  · intro back
    rw [blockEnd?, List.drop_left, interiorLength?_group kind inside.isClosed_text]
    rfl
  · intro groups
    have opens : Delimiter.isOpener kind.opener = true := by cases kind <;> rfl
    have regular : Scanner.start.hasSurplus (inside.text ++ openGroups groups) = false := by
      obtain ⟨noSurplus, behind, -⟩ := isClosed_iff.mp inside.isClosed_text
      rw [Scanner.hasSurplus_append, noSurplus, hasSurplus_openGroups behind]
      rfl
    rw [blockEnd?, List.drop_left, interiorLength?, if_pos opens,
      lengthToTopLevel?_behind_opener kind regular]
    rfl

end RouteCatalog
