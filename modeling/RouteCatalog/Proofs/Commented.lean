import Mathlib.Data.List.Chain
import RouteCatalog.Proofs.CommentFree

/-!
# Text with comments

Source text is a sequence of segments: code, string literals, block comments and line comments.
Stripping takes the comments away and leaves code and literals as they are, in their order:
`stripComments_segments`. What a comment holds has no part in this, and neither has what a literal
holds.
-/

namespace RouteCatalog

/-- A part of source text. -/
inductive Segment where
  | code (text : Text)
  | literal (quote : Quote) (content : Text)
  | blockComment (body : Text)
  /-- A comment up to the end of its line, without the line feed. -/
  | lineComment (body : Text)
  deriving DecidableEq, Repr

namespace Segment

/-- The segment as it stands in the text. -/
def write : Segment → Text
  | code text => text
  | literal quote content => quote.around content
  | blockComment body => '/' :: '*' :: (body ++ ['*', '/'])
  | lineComment body => '/' :: '/' :: body

/-- Is the segment left out when comments are stripped? -/
def isComment : Segment → Bool
  | code _ | literal _ _ => false
  | blockComment _ | lineComment _ => true

/-- The segment ends where it is written to end: code has neither quotes nor comment marks, a literal
is closed by its last mark only, and comments do not end within their bodies. -/
def IsProper : Segment → Prop
  | code text =>
    (∀ character ∈ text, Quote.ofMark? character = none) ∧
      ¬['/', '/'] <:+: text ∧ ¬['/', '*'] <:+: text ∧ text.getLast? ≠ some '/'
  | literal quote content => quote.encloses content = true
  | blockComment body => ¬['*', '/'] <:+: body
  | lineComment body => '\n' ∉ body

instance : DecidablePred IsProper
  | code text =>
    haveI : Decidable (∀ character ∈ text, Quote.ofMark? character = none) :=
      List.decidableBAll _ text
    inferInstanceAs (Decidable ((∀ character ∈ text, Quote.ofMark? character = none) ∧
      ¬['/', '/'] <:+: text ∧ ¬['/', '*'] <:+: text ∧ text.getLast? ≠ some '/'))
  | literal quote content => inferInstanceAs (Decidable (quote.encloses content = true))
  | blockComment body => inferInstanceAs (Decidable (¬['*', '/'] <:+: body))
  | lineComment body => inferInstanceAs (Decidable ('\n' ∉ body))

/-- Is the segment code that begins with a line feed? -/
def endsLine : Segment → Bool
  | code text => text.head? == some '\n'
  | _ => false

/-- May the segment stand behind another one? A line comment goes on up to code with a line feed. -/
def mayFollow (next : Segment) : Segment → Bool
  | lineComment _ => next.endsLine
  | _ => true

end Segment

/-- The segments end where they are written to end, and line comments at the ends of their lines. -/
structure IsSegmented (segments : List Segment) : Prop where
  proper : ∀ segment ∈ segments, segment.IsProper
  lines : segments.IsChain fun segment next => next.mayFollow segment = true

/-- Text without comment marks is left as it is. -/
theorem stripCommentsFrom_of_unmarked {text : Text} (noLine : ¬['/', '/'] <:+: text)
    (noBlock : ¬['/', '*'] <:+: text) (scanner : Scanner) :
    stripCommentsFrom .code scanner text = text := by
  induction text generalizing scanner with
  | nil => rfl
  | cons character rest inductionHypothesis =>
    have apart : ∀ mark, ¬['/', mark] <:+: character :: rest →
        ¬(scanner.inString = false ∧ character = '/' ∧ rest.head? = some mark) := by
      rintro mark absent ⟨-, rfl, next⟩
      obtain ⟨following, rfl⟩ := List.head?_eq_some_iff.mp next
      exact absent ⟨[], following, rfl⟩
    have behind : ∀ {marks : Text}, ¬marks <:+: character :: rest → ¬marks <:+: rest :=
      fun absent inRest => absent (inRest.trans (List.suffix_cons character rest).isInfix)
    rw [stripCommentsFrom, if_neg (apart '/' noLine), if_neg (apart '*' noBlock),
      inductionHypothesis (behind noLine) (behind noBlock)]

/-- Text without quotes opens no literal. -/
theorem inString_scan_of_unquoted {scanner : Scanner} {text : Text}
    (outside : scanner.inString = false)
    (unquoted : ∀ character ∈ text, Quote.ofMark? character = none) :
    (scanner.scan text).inString = false := by
  induction text generalizing scanner with
  | nil => exact outside
  | cons character rest inductionHypothesis =>
    obtain ⟨plain, unquoted⟩ := List.forall_mem_cons.mp unquoted
    have closed : scanner.literal.quote = none := by
      simpa [Scanner.inString, Literal.isOpen] using outside
    apply inductionHypothesis _ unquoted
    simp [Scanner.inString, Scanner.feed, Literal.feed, Literal.quoteAfter, Literal.isOpen, closed,
      plain]

section Comments

variable {scanner : Scanner} {body rest : Text}

/-- The rest of a block comment is passed over. -/
theorem stripCommentsFrom_blockComment (unclosed : ¬['*', '/'] <:+: body) :
    stripCommentsFrom .blockComment scanner (body ++ '*' :: '/' :: rest) =
      stripCommentsFrom .code scanner rest := by
  induction body with
  | nil => simp [stripCommentsFrom]
  | cons character body inductionHypothesis =>
    -- Before the star that belongs to the closing mark there is no slash.
    have goesOn : ¬(character = '*' ∧ (body ++ '*' :: '/' :: rest).head? = some '/') := by
      rintro ⟨rfl, next⟩
      cases body with
      | nil => simp at next
      | cons following body =>
        obtain rfl : following = '/' := by simpa using next
        exact unclosed ⟨[], body, rfl⟩
    rw [List.cons_append, stripCommentsFrom, if_neg goesOn]
    exact inductionHypothesis fun inBody =>
      unclosed (inBody.trans (List.suffix_cons character body).isInfix)

/-- The rest of a line comment is passed over, up to the line feed or the end of the text. -/
theorem stripCommentsFrom_lineComment (oneLine : '\n' ∉ body)
    (ends : ∀ character, rest.head? = some character → character = '\n') :
    stripCommentsFrom .lineComment scanner (body ++ rest) = stripCommentsFrom .code scanner rest := by
  induction body with
  | nil =>
    cases rest with
    | nil => rfl
    | cons character rest =>
      obtain rfl := ends character rfl
      simp [stripCommentsFrom]
  | cons character body inductionHypothesis =>
    rw [List.mem_cons, not_or] at oneLine
    obtain ⟨other, oneLine⟩ := oneLine
    rw [List.cons_append, stripCommentsFrom, if_neg (Ne.symm other), inductionHypothesis oneLine]

end Comments

namespace Segment

/-- Segments that are no comments have none in them. -/
theorem IsProper.commentFree {segment : Segment} (proper : segment.IsProper)
    (kept : segment.isComment = false) : isCommentFree segment.write = true := by
  cases segment with
  | code text =>
    obtain ⟨unquoted, noLine, noBlock, -⟩ := proper
    simp only [isCommentFree, write, Bool.and_eq_true, beq_iff_eq, Bool.not_eq_true']
    exact ⟨stripCommentsFrom_of_unmarked noLine noBlock .start,
      inString_scan_of_unquoted Scanner.inString_start unquoted⟩
  | literal quote content => exact isCommentFree_around proper
  | blockComment body => cases kept
  | lineComment body => cases kept

/-- Segments that are no comments do not end with half a comment mark. -/
theorem IsProper.opensComment_eq_false {segment : Segment} (proper : segment.IsProper)
    (kept : segment.isComment = false) (following : Text) :
    opensComment segment.write following = false := by
  have last : segment.write.getLast? ≠ some '/' := by
    cases segment with
    | code text => exact proper.2.2.2
    | literal quote content =>
      have noSlash : quote.mark ≠ '/' := by cases quote <;> decide
      simp [write, Quote.around, List.getLast?_cons, noSlash]
    | blockComment body => cases kept
    | lineComment body => cases kept
  simp [opensComment, last]

/-- One segment in front of others: it is kept exactly if it is no comment. -/
theorem IsProper.stripCommentsFrom_write {segment : Segment} {scanner : Scanner} {following : Text}
    (proper : segment.IsProper) (outside : scanner.inString = false)
    (ends : ∀ body, segment = lineComment body →
      ∀ character, following.head? = some character → character = '\n') :
    ∃ next : Scanner, next.inString = false ∧
      stripCommentsFrom .code scanner (segment.write ++ following) =
        (if segment.isComment then [] else segment.write) ++
          stripCommentsFrom .code next following := by
  by_cases kept : segment.isComment = false
  · have free := proper.commentFree kept
    refine ⟨scanner.scan segment.write, inString_scan_of_commentFree outside free, ?_⟩
    simpa [kept] using stripCommentsFrom_of_commentFree outside free
      (proper.opensComment_eq_false kept following)
  · refine ⟨scanner, outside, ?_⟩
    cases segment with
    | code text => exact absurd rfl kept
    | literal quote content => exact absurd rfl kept
    | blockComment body =>
      simpa [write, isComment, stripCommentsFrom, outside] using
        stripCommentsFrom_blockComment proper
    | lineComment body =>
      simpa [write, isComment, stripCommentsFrom, outside] using
        stripCommentsFrom_lineComment proper (ends body rfl)

end Segment

/-- Of segments exactly the comments are stripped. -/
theorem stripComments_segments {segments : List Segment} (segmented : IsSegmented segments) :
    stripComments (segments.flatMap Segment.write) =
      (segments.filter fun segment => !segment.isComment).flatMap Segment.write := by
  suffices general : ∀ scanner : Scanner, scanner.inString = false →
      stripCommentsFrom .code scanner (segments.flatMap Segment.write) =
        (segments.filter fun segment => !segment.isComment).flatMap Segment.write from
    general .start Scanner.inString_start
  obtain ⟨proper, lines⟩ := segmented
  induction segments with
  | nil => intro scanner _; rfl
  | cons segment rest inductionHypothesis =>
    intro scanner outside
    obtain ⟨first, others⟩ := List.forall_mem_cons.mp proper
    have ends : ∀ body, segment = .lineComment body →
        ∀ character, (rest.flatMap Segment.write).head? = some character → character = '\n' := by
      rintro body rfl character begins
      cases rest with
      | nil => simp at begins
      | cons following rest =>
        have feed : following.endsLine = true := (List.isChain_cons_cons.mp lines).1
        cases following with
        | code text =>
          simp only [Segment.endsLine, beq_iff_eq] at feed
          simpa [Segment.write, feed] using begins.symm
        | literal quote content => cases feed
        | blockComment body => cases feed
        | lineComment body => cases feed
    obtain ⟨next, stillOutside, stripped⟩ := first.stripCommentsFrom_write outside ends
    rw [List.flatMap_cons, stripped, inductionHypothesis others lines.tail next stillOutside]
    cases comment : segment.isComment <;> simp [comment]

/-- Segments next to which a careless reader goes wrong: comments with a quote, with a closing mark
of one character, with an export and next to each other, and a literal with comment marks and with
its own mark after a backslash. -/
def exampleSegments : List Segment := [
  .code "a: ".toList,
  .literal .single "http://it\\'s/*".toList,
  .blockComment "/".toList,
  .blockComment "*".toList,
  .code "; ".toList,
  .lineComment " don't /*".toList,
  .code "\nb / c".toList,
  .literal .double [],
  .blockComment "export const auth = \x7b".toList,
  .lineComment "/".toList]

theorem stripComments_segments_example : IsSegmented exampleSegments ∧
    stripComments (exampleSegments.flatMap Segment.write) =
      "a: 'http://it\\'s/*'; \nb / c\"\"".toList := by
  have segmented : IsSegmented exampleSegments := ⟨by decide +kernel, by decide +kernel⟩
  exact ⟨segmented, (stripComments_segments segmented).trans (by decide +kernel)⟩

end RouteCatalog
