import RouteCatalog.Proofs.CommentFree
import RouteCatalog.Proofs.Delimiter.Whole

/-!
# Escapes in string literals

In the content of a literal a backslash and the character behind it belong together. The scan looks one
character back and does not know to what that character belongs: it is right about every literal but those
that end with an escaped backslash, whose closing mark it takes for an escaped one
(`closesAtItsEnd_iff`). What a literal that is closed at its end means for all that reads the text behind it
is `closesAtItsEnd_iff_encloses`.
-/

namespace RouteCatalog

/-- An item of the content of a string literal. -/
inductive LiteralItem (quote : Quote) where
  | ordinary (character : Char) (isOrdinary : character ∉ [quote.mark, '\\', '\n'])
  | escape (character : Char) (oneLine : character ≠ '\n')

namespace LiteralItem

variable {quote : Quote}

/-- The item as it is written. -/
def text : LiteralItem quote → Text
  | ordinary character _ => [character]
  | escape character _ => ['\\', character]

def isEscapedBackslash : LiteralItem quote → Bool
  | ordinary _ _ => false
  | escape character _ => character == '\\'

/-- The content of a literal with these items. -/
def content (items : List (LiteralItem quote)) : Text :=
  items.flatMap text

end LiteralItem

/-- A literal, read outside every other, is open up to its last mark and closed behind it. It leaves the
groups as they are, and what follows it is split, searched for the end of a block and stripped of comments
as if it were not there. -/
structure ClosesAtItsEnd (scanner : Scanner) (quote : Quote) (content : Text) : Prop where
  inside : ∀ front, front <+: content → (scanner.scan (quote.mark :: front)).inString = true
  outside : (scanner.scan (quote.around content)).inString = false
  nesting : ∀ front, front <+: quote.around content →
    (scanner.scan front).nesting = scanner.nesting
  split : ∀ isSeparator, isSeparator quote.mark = false → ∀ back,
    splitFrom isSeparator scanner (quote.around content ++ back) =
      (splitFrom isSeparator scanner back).modifyHead (quote.around content ++ ·)
  block : scanner.atTopLevel = false → ∀ back,
    lengthToTopLevel? scanner (quote.around content ++ back) =
      (lengthToTopLevel? scanner back).map ((quote.around content).length + ·)
  comments : ∀ back, stripCommentsFrom .code scanner (quote.around content ++ back) =
    quote.around content ++ stripCommentsFrom .code scanner back

section Scan

variable {scanner : Scanner} {quote : Quote} {previous : Char} {content : Text}

/-- Outside every literal a mark opens one. -/
theorem Scanner.feed_mark (outside : scanner.inString = false) (quote : Quote) :
    (scanner.feed quote.mark).literal = ⟨some quote, some quote.mark⟩ ∧
      (scanner.feed quote.mark).nesting = scanner.nesting := by
  have unquoted : scanner.literal.quote = none := by
    simpa [Scanner.inString, Literal.isOpen] using outside
  cases quote <;>
    simp [feed, inString, Literal.isOpen, Literal.feed, Literal.quoteAfter, unquoted, Quote.mark,
      Quote.ofMark?, Nesting.feed, Delimiter.ofOpener?, Delimiter.ofCloser?]

/-- Nothing in an enclosed content leads out of its literal. -/
theorem Scanner.scan_prefix_enclosed {front : Text}
    (inside : scanner.literal = ⟨some quote, some previous⟩)
    (enclosed : quote.enclosesAfter previous content = true) (begins : front <+: content) :
    (scanner.scan front).inString = true ∧ (scanner.scan front).nesting = scanner.nesting := by
  have quoted : scanner.inString = true := by simp [inString, Literal.isOpen, inside]
  induction content generalizing scanner previous front with
  | nil => simp [List.prefix_nil.mp begins, quoted]
  | cons character rest inductionHypothesis =>
    rcases List.prefix_cons_iff.mp begins with rfl | ⟨later, rfl, further⟩
    · exact ⟨quoted, rfl⟩
    · simp only [Quote.enclosesAfter, Bool.and_eq_true, Bool.or_eq_true, bne_iff_ne, beq_iff_eq]
        at enclosed
      have stays := feed_enclosed inside enclosed.1
      have level : (scanner.feed character).nesting = scanner.nesting := by simp [feed, quoted]
      obtain ⟨still, nested⟩ := inductionHypothesis stays enclosed.2 further
        (by simp [inString, Literal.isOpen, stays])
      exact ⟨still, nested.trans level⟩

/-- A content that is not left before its last mark, but then, is enclosed. -/
theorem Scanner.enclosesAfter_of_scan (inside : scanner.literal = ⟨some quote, some previous⟩)
    (stays : ∀ front, front <+: content → (scanner.scan front).inString = true)
    (leaves : (scanner.scan (content ++ [quote.mark])).inString = false) :
    quote.enclosesAfter previous content = true := by
  induction content generalizing scanner previous with
  | nil =>
    simpa [feed, inString, Literal.isOpen, Literal.feed, Literal.quoteAfter, inside,
      Quote.enclosesAfter] using leaves
  | cons character rest inductionHypothesis =>
    have enclosed : character ≠ quote.mark ∨ previous = '\\' := by
      have still := stays [character] (by simp)
      by_cases closing : character = quote.mark ∧ previous ≠ '\\'
      · simp [feed, inString, Literal.isOpen, Literal.feed, Literal.quoteAfter, inside, closing] at still
      · rwa [Classical.not_and_iff_not_or_not, Classical.not_not] at closing
    have further := inductionHypothesis (feed_enclosed inside enclosed)
      (fun front begins => stays (character :: front) (List.cons_prefix_cons.mpr ⟨rfl, begins⟩)) leaves
    simpa [Quote.enclosesAfter, further] using enclosed

/-- Exactly the enclosed contents make literals that are closed at their ends. -/
theorem closesAtItsEnd_iff_encloses (outside : scanner.inString = false) :
    ClosesAtItsEnd scanner quote content ↔ quote.encloses content = true := by
  obtain ⟨opened, level⟩ := Scanner.feed_mark outside quote
  constructor
  · intro closes
    exact Scanner.enclosesAfter_of_scan opened closes.inside closes.outside
  · intro enclosed
    have closed := isClosed_around enclosed
    have behind := within_behind_closed outside closed
    have deep : ¬scanner.atTopLevel = true → scanner.nesting.depth ≠ 0 := by
      simp [Scanner.atTopLevel, Scanner.depth, outside]
    have regular := (isClosed_iff.mp closed).1
    refine ⟨fun front begins => ?_, inString_scan_of_closed outside closed, fun front begins => ?_,
      fun isSeparator opens back => ?_, fun nested back => ?_, fun back => ?_⟩
    · exact (Scanner.scan_prefix_enclosed opened enclosed begins).1
    · change front <+: quote.mark :: content ++ [quote.mark] at begins
      rcases List.prefix_concat_iff.mp begins with rfl | unclosed
      · exact nesting_scan_of_closed outside closed
      · rcases List.prefix_cons_iff.mp unclosed with rfl | ⟨inner, rfl, within⟩
        · rfl
        · exact (Scanner.scan_prefix_enclosed opened enclosed within).2.trans level
    · have whole : splitFrom isSeparator scanner (quote.around content) = [quote.around content] := by
        by_cases top : scanner.atTopLevel = true
        · rw [splitFrom_of_atTopLevel top]
          exact whole_around opens enclosed
        · exact splitFrom_of_deep (.start outside) (deep top) regular
      rw [splitFrom_append whole, splitFrom_within behind]
    · have passed : lengthToTopLevel? scanner (quote.around content) = none :=
        lengthToTopLevel?_of_deep (.start outside) (deep (by simp [nested])) regular
      rw [lengthToTopLevel?_append passed, lengthToTopLevel?_within behind]
    · have apart : opensComment (quote.around content) back = false := by
        have last : (quote.around content).getLast? = some quote.mark := by
          simp [Quote.around, List.getLast?_cons]
        cases quote <;> simp [opensComment, last, Quote.mark]
      rw [stripCommentsFrom_of_commentFree outside (isCommentFree_around enclosed) apart,
        stripCommentsFrom_alike behind.literal]

end Scan

section Items

variable {quote : Quote} {items : List (LiteralItem quote)}

/-- What encloses a content is that its last item is no escaped backslash. -/
theorem enclosesAfter_content (previous : Char) :
    quote.enclosesAfter previous (LiteralItem.content items) =
      !(items.getLast?.map LiteralItem.isEscapedBackslash).getD (previous == '\\') := by
  induction items generalizing previous with
  | nil => rfl
  | cons item rest inductionHypothesis =>
    have last : ((item :: rest).getLast?.map LiteralItem.isEscapedBackslash).getD (previous == '\\') =
        (rest.getLast?.map LiteralItem.isEscapedBackslash).getD item.isEscapedBackslash := by
      rw [List.getLast?_cons]
      cases rest.getLast? <;> rfl
    rw [last]
    cases item with
    | ordinary character isOrdinary =>
      have unlike : character ≠ quote.mark ∧ character ≠ '\\' := by
        simp only [List.mem_cons, not_or] at isOrdinary
        exact ⟨isOrdinary.1, isOrdinary.2.1⟩
      calc quote.enclosesAfter previous (LiteralItem.content (.ordinary character isOrdinary :: rest))
          = quote.enclosesAfter character (LiteralItem.content rest) := by
            simp [LiteralItem.content, LiteralItem.text, Quote.enclosesAfter, unlike.1]
        _ = _ := by rw [inductionHypothesis, beq_false_of_ne unlike.2]; rfl
    | escape character oneLine =>
      have unmarked : '\\' ≠ quote.mark := by cases quote <;> decide
      calc quote.enclosesAfter previous (LiteralItem.content (.escape character oneLine :: rest))
          = quote.enclosesAfter character (LiteralItem.content rest) := by
            simp [LiteralItem.content, LiteralItem.text, Quote.enclosesAfter, unmarked]
        _ = _ := by rw [inductionHypothesis]; rfl

/-- A literal is closed at its end exactly if its content does not end with an escaped backslash. -/
theorem closesAtItsEnd_iff {scanner : Scanner} (outside : scanner.inString = false)
    (quote : Quote) (items : List (LiteralItem quote)) :
    ClosesAtItsEnd scanner quote (LiteralItem.content items) ↔
      items.getLast?.any LiteralItem.isEscapedBackslash = false := by
  rw [closesAtItsEnd_iff_encloses outside, Quote.encloses, enclosesAfter_content]
  have mark : (quote.mark == '\\') = false := by cases quote <;> decide
  cases items.getLast? <;> simp [mark]

/-- A literal that holds an escaped mark, the mark of a comment, an opener and an escaped backslash that is
not its last item. -/
theorem closesAtItsEnd_apostrophe :
    Scanner.start.inString = false ∧
      ClosesAtItsEnd .start .single "it\\'s // \x7b\\\\n,".toList :=
  ⟨rfl, (closesAtItsEnd_iff rfl .single [.ordinary 'i' (by decide), .ordinary 't' (by decide),
    .escape '\'' (by decide), .ordinary 's' (by decide), .ordinary ' ' (by decide),
    .ordinary '/' (by decide), .ordinary '/' (by decide), .ordinary ' ' (by decide),
    .ordinary '{' (by decide), .escape '\\' (by decide), .ordinary 'n' (by decide),
    .ordinary ',' (by decide)]).mpr rfl⟩

/-- The literal of one escaped backslash is still open behind its last mark. So the next literal is read
as code and cut at its comma, and the comment behind the literal stays. -/
theorem not_closesAtItsEnd_backslash :
    ¬ClosesAtItsEnd .start .single (@LiteralItem.content .single [.escape '\\' (by decide)]) ∧
      rows "a: '\\\\', b: 'x,y'".toList = ["a: '\\\\', b: 'x".toList, "y'".toList] ∧
      stripComments "'\\\\' // x".toList = "'\\\\' // x".toList := by
  refine ⟨fun closes => ?_, by decide, by decide⟩
  have closed := closes.outside
  revert closed
  decide

end Items

end RouteCatalog
