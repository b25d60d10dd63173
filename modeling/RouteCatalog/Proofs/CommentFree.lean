import RouteCatalog.Comment
import RouteCatalog.Proofs.Delimiter.Closed

/-!
# Texts without comments

A text that stripping leaves as it is keeps every character wherever it stands, as long as no
comment mark arises where it meets the text behind it: `stripCommentsFrom_append`. The groups that
are open around a text have no part in this, only the literal does.
-/

namespace RouteCatalog

/-- Would a slash at the end of the first text and the beginning of the second open a comment? -/
def opensComment (front back : Text) : Bool :=
  front.getLast? == some '/' && (back.head? == some '/' || back.head? == some '*')

/-- Is there no comment in the text, and does it end outside every literal? -/
def isCommentFree (text : Text) : Bool :=
  stripComments text == text && !(Scanner.start.scan text).inString

/-- Stripping takes characters away and changes none. -/
theorem stripCommentsFrom_sublist (state : CommentState) (scanner : Scanner) (text : Text) :
    (stripCommentsFrom state scanner text).Sublist text := by
  induction text generalizing state scanner with
  | nil => cases state <;> simp [stripCommentsFrom]
  | cons character rest inductionHypothesis =>
    have dropped := fun state scanner => (inductionHypothesis state scanner).cons character
    have kept := fun state scanner => (inductionHypothesis state scanner).cons_cons character
    cases state with
    | code =>
      simp only [stripCommentsFrom]
      split
      · exact dropped _ _
      · split
        · exact dropped _ _
        · exact kept _ _
    | lineComment =>
      simp only [stripCommentsFrom]
      split
      · exact kept _ _
      · exact dropped _ _
    | blockComment =>
      simp only [stripCommentsFrom]
      split
      · exact dropped _ _
      · exact dropped _ _
    | openingStar => exact dropped _ _
    | closingSlash => exact dropped _ _

/-- Where a comment opens, fewer slashes are left. -/
theorem count_stripCommentsFrom_lt {scanner : Scanner} {character : Char} {rest : Text}
    (outside : scanner.inString = false) (opens : opensComment [character] rest = true) :
    (stripCommentsFrom .code scanner (character :: rest)).count '/' <
      (character :: rest).count '/' := by
  simp only [opensComment, List.getLast?_singleton, Bool.and_eq_true, Bool.or_eq_true, beq_iff_eq,
    Option.some.injEq] at opens
  obtain ⟨rfl, next⟩ := opens
  have fewer : ∀ state, (stripCommentsFrom state scanner rest).count '/' < ('/' :: rest).count '/' := by
    intro state
    have bound := (stripCommentsFrom_sublist state scanner rest).count_le '/'
    rw [List.count_cons_self]
    omega
  rw [stripCommentsFrom]
  split
  · exact fewer .lineComment
  · rename_i noLine
    rw [if_pos ⟨outside, rfl, next.resolve_left fun slash => noLine ⟨outside, rfl, slash⟩⟩]
    exact fewer .openingStar

/-- A character at which no comment opens is kept. -/
theorem stripCommentsFrom_cons {scanner : Scanner} {character : Char} {rest : Text}
    (apart : scanner.inString = true ∨ opensComment [character] rest = false) :
    stripCommentsFrom .code scanner (character :: rest) =
      character :: stripCommentsFrom .code (scanner.feed character) rest := by
  have noMark : ∀ mark, mark = '/' ∨ mark = '*' →
      ¬(scanner.inString = false ∧ character = '/' ∧ rest.head? = some mark) := by
    rintro mark marks ⟨outside, rfl, next⟩
    rcases apart with inside | apart
    · rw [outside] at inside
      cases inside
    · rcases marks with rfl | rfl <;> simp [opensComment, next] at apart
  rw [stripCommentsFrom, if_neg (noMark '/' (.inl rfl)), if_neg (noMark '*' (.inr rfl))]

/-- A text keeps all its characters exactly if no comment opens at the first and the others are kept. -/
theorem stripCommentsFrom_cons_eq_iff {scanner : Scanner} {character : Char} {rest : Text} :
    stripCommentsFrom .code scanner (character :: rest) = character :: rest ↔
      (scanner.inString = true ∨ opensComment [character] rest = false) ∧
        stripCommentsFrom .code (scanner.feed character) rest = rest := by
  by_cases apart : scanner.inString = true ∨ opensComment [character] rest = false
  · rw [stripCommentsFrom_cons apart, List.cons.injEq]
    simp [apart]
  · simp only [not_or, Bool.not_eq_true, Bool.not_eq_false] at apart
    simp only [apart, Bool.false_eq_true, Bool.true_eq_false, or_self, false_and, iff_false]
    intro kept
    have fewer := count_stripCommentsFrom_lt apart.1 apart.2
    rw [kept] at fewer
    exact absurd fewer (Nat.lt_irrefl _)

/-- A text from which something is stripped loses a slash. -/
theorem stripCommentsFrom_eq_or_count_lt (scanner : Scanner) (text : Text) :
    stripCommentsFrom .code scanner text = text ∨
      (stripCommentsFrom .code scanner text).count '/' < text.count '/' := by
  induction text generalizing scanner with
  | nil => exact .inl rfl
  | cons character rest inductionHypothesis =>
    by_cases apart : scanner.inString = true ∨ opensComment [character] rest = false
    · rw [stripCommentsFrom_cons apart]
      refine (inductionHypothesis (scanner.feed character)).imp (congrArg _) fun fewer => ?_
      simpa [List.count_cons] using fewer
    · simp only [not_or, Bool.not_eq_true, Bool.not_eq_false] at apart
      exact .inr (count_stripCommentsFrom_lt apart.1 apart.2)

/-- No comment opens without a slash. -/
theorem stripCommentsFrom_of_not_mem {text : Text} (absent : '/' ∉ text) (scanner : Scanner) :
    stripCommentsFrom .code scanner text = text := by
  refine (stripCommentsFrom_eq_or_count_lt scanner text).resolve_right ?_
  rw [List.count_eq_zero_of_not_mem absent]
  exact Nat.not_lt_zero _

/-- Only the literal that is open matters for what is stripped. -/
theorem stripCommentsFrom_alike {left right : Scanner} (alike : left.literal.Alike right.literal)
    (state : CommentState) (text : Text) :
    stripCommentsFrom state left text = stripCommentsFrom state right text := by
  have insides : ∀ {left right : Scanner}, left.literal.Alike right.literal →
      left.inString = right.inString := fun alike => alike.isOpen_eq
  induction text generalizing state left right with
  | nil => cases state <;> rfl
  | cons character rest inductionHypothesis =>
    have fed : (left.feed character).literal.Alike (right.feed character).literal :=
      alike.feed character
    cases state <;>
      simp only [stripCommentsFrom, insides alike, inductionHypothesis alike,
        inductionHypothesis fed]

/-- A text that keeps all its characters keeps them in front of every text with which it opens no
comment. -/
theorem stripCommentsFrom_append {scanner : Scanner} {front back : Text}
    (free : stripCommentsFrom .code scanner front = front)
    (apart : opensComment front back = false) :
    stripCommentsFrom .code scanner (front ++ back) =
      front ++ stripCommentsFrom .code (scanner.scan front) back := by
  induction front generalizing scanner with
  | nil => rfl
  | cons character rest inductionHypothesis =>
    obtain ⟨apartHere, restFree⟩ := stripCommentsFrom_cons_eq_iff.mp free
    have restApart : opensComment rest back = false := by
      cases rest with
      | nil => rfl
      | cons following rest => simpa [opensComment] using apart
    have apartThere : scanner.inString = true ∨ opensComment [character] (rest ++ back) = false := by
      cases rest with
      | nil => exact .inr apart
      | cons following rest => exact apartHere
    rw [List.cons_append, stripCommentsFrom_cons apartThere, inductionHypothesis restFree restApart]
    rfl

/-- The beginning of a text that keeps all its characters keeps them too. -/
theorem stripCommentsFrom_of_append {scanner : Scanner} {front back : Text}
    (free : stripCommentsFrom .code scanner (front ++ back) = front ++ back) :
    stripCommentsFrom .code scanner front = front := by
  induction front generalizing scanner with
  | nil => rfl
  | cons character rest inductionHypothesis =>
    obtain ⟨apart, restFree⟩ := stripCommentsFrom_cons_eq_iff.mp free
    refine stripCommentsFrom_cons_eq_iff.mpr ⟨apart.imp_right fun apart => ?_,
      inductionHypothesis restFree⟩
    cases rest with
    | nil => simp [opensComment]
    | cons following rest => exact apart

/-- Two texts that open no comment where they meet keep all their characters exactly if each does. -/
theorem stripCommentsFrom_append_eq_iff {scanner : Scanner} {front back : Text}
    (apart : opensComment front back = false) :
    stripCommentsFrom .code scanner (front ++ back) = front ++ back ↔
      stripCommentsFrom .code scanner front = front ∧
        stripCommentsFrom .code (scanner.scan front) back = back := by
  constructor
  · intro free
    have begins := stripCommentsFrom_of_append free
    rw [stripCommentsFrom_append begins apart, List.append_cancel_left_eq] at free
    exact ⟨begins, free⟩
  · rintro ⟨begins, ends⟩
    rw [stripCommentsFrom_append begins apart, ends]

/-- A text without comments keeps its characters wherever it begins outside every literal. -/
theorem stripCommentsFrom_of_commentFree {scanner : Scanner} {front back : Text}
    (outside : scanner.inString = false) (free : isCommentFree front = true)
    (apart : opensComment front back = false) :
    stripCommentsFrom .code scanner (front ++ back) =
      front ++ stripCommentsFrom .code (scanner.scan front) back := by
  simp only [isCommentFree, Bool.and_eq_true, beq_iff_eq] at free
  apply stripCommentsFrom_append _ apart
  rw [← stripCommentsFrom_alike (.of_not_isOpen Scanner.inString_start outside)]
  exact free.1

/-- A scanner outside every literal is outside again behind a text without comments. -/
theorem inString_scan_of_commentFree {scanner : Scanner} {text : Text}
    (outside : scanner.inString = false) (free : isCommentFree text = true) :
    (scanner.scan text).inString = false := by
  have alike : ∀ {left right : Scanner}, left.literal.Alike right.literal →
      (left.scan text).literal.Alike (right.scan text).literal := by
    clear free
    induction text with
    | nil => exact fun alike => alike
    | cons character rest inductionHypothesis =>
      exact fun alike => inductionHypothesis (alike.feed character)
  simp only [isCommentFree, Bool.and_eq_true, Bool.not_eq_true'] at free
  rw [← free.2]
  exact (alike (.of_not_isOpen Scanner.inString_start outside)).isOpen_eq.symm

/-- A closed text without slashes has no comments. -/
theorem isCommentFree_of_closed {text : Text} (closed : isClosed text = true)
    (noSlash : '/' ∉ text) : isCommentFree text = true := by
  simp [isCommentFree, stripComments, stripCommentsFrom_of_not_mem noSlash,
    (isClosed_iff.mp closed).2.1]

/-- Nothing inside a literal begins a comment. -/
theorem stripComments_around {quote : Quote} {content : Text}
    (enclosed : quote.encloses content = true) :
    stripComments (quote.around content) = quote.around content := by
  have inside : ∀ (scanner : Scanner) (previous : Char),
      scanner.literal = ⟨some quote, some previous⟩ →
      quote.enclosesAfter previous content = true →
      stripCommentsFrom .code scanner (content ++ [quote.mark]) = content ++ [quote.mark] := by
    clear enclosed
    induction content with
    | nil => 
      intro scanner previous inside _
      simp [stripCommentsFrom]
    | cons character rest inductionHypothesis =>
      intro scanner previous inside enclosed
      simp only [Quote.enclosesAfter, Bool.and_eq_true, Bool.or_eq_true, bne_iff_ne, beq_iff_eq]
        at enclosed
      have quoted : scanner.inString = true := by
        simp [Scanner.inString, Literal.isOpen, inside]
      have following := inductionHypothesis (scanner.feed character) character
        (Scanner.feed_enclosed inside enclosed.1) enclosed.2
      simp [stripCommentsFrom, quoted, following]
  have opened : (Scanner.start.feed quote.mark).literal = ⟨some quote, some quote.mark⟩ := by
    cases quote <;> rfl
  have noSlash : quote.mark ≠ '/' := by cases quote <;> decide
  simp [stripComments, Quote.around, stripCommentsFrom, noSlash, inside _ _ opened enclosed]

/-- A text that is closed and loses nothing as comments has none. -/
theorem isCommentFree_of_stripped {text : Text} (closed : isClosed text = true)
    (stripped : stripComments text = text) : isCommentFree text = true := by
  simp [isCommentFree, stripped, (isClosed_iff.mp closed).2.1]

/-- A literal holds no comment. -/
theorem isCommentFree_around {quote : Quote} {content : Text}
    (enclosed : quote.encloses content = true) : isCommentFree (quote.around content) = true :=
  isCommentFree_of_stripped (isClosed_around enclosed) (stripComments_around enclosed)

end RouteCatalog
