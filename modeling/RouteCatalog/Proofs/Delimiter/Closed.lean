import RouteCatalog.Delimiter.Split
import RouteCatalog.Delimiter.Block

/-!
# Closed texts

A text is closed when a fresh scan of it meets no surplus closer and ends at top level. Whatever
groups are open around it, a closed text is read as if it stood alone: `Within.scan` relates the
two scans character by character, and `scan_of_closed` says that the groups around the text are
left as they were.
-/

namespace RouteCatalog

/-- Is the character neither a quote nor a delimiter? -/
def isPlain (character : Char) : Bool :=
  (Quote.ofMark? character).isNone && !Delimiter.isOpener character && !Delimiter.isCloser character

/-- Does every mark in the text follow a backslash, and does the text not end with one? The
character before the text is given. -/
def Quote.enclosesAfter (quote : Quote) (previous : Char) : Text → Bool
  | [] => previous != '\\'
  | character :: rest =>
    (character != quote.mark || previous == '\\') && quote.enclosesAfter character rest

/-- Is the literal with this content closed by its second mark and by nothing before? -/
def Quote.encloses (quote : Quote) (content : Text) : Bool :=
  quote.enclosesAfter quote.mark content

/-- The literal with a content. -/
def Quote.around (quote : Quote) (content : Text) : Text :=
  quote.mark :: (content ++ [quote.mark])

/-- A content without the mark that does not end with a backslash is enclosed. -/
theorem Quote.encloses_of_not_mem {quote : Quote} {content : Text} (absent : quote.mark ∉ content)
    (unescaped : content.getLast? ≠ some '\\') : quote.encloses content = true := by
  suffices general : ∀ previous, (content = [] → previous ≠ '\\') →
      quote.enclosesAfter previous content = true from
    general quote.mark fun _ => by cases quote <;> decide
  induction content with
  | nil =>
    intro previous regular
    simpa [enclosesAfter] using regular rfl
  | cons character rest inductionHypothesis =>
    intro previous _
    simp only [List.mem_cons, not_or] at absent
    simp only [enclosesAfter, Bool.and_eq_true, Bool.or_eq_true, bne_iff_ne]
    refine ⟨.inl (Ne.symm absent.1), inductionHypothesis absent.2 ?_ character ?_⟩
    · intro last
      apply unescaped
      rw [List.getLast?_cons, last]
      rfl
    · rintro rfl rfl
      exact unescaped rfl

namespace Literal

/-- Two states that every text continues in the same way: the last character matters only inside
a literal. -/
def Alike (left right : Literal) : Prop :=
  left.quote = right.quote ∧ (left.isOpen = true → left.previous = right.previous)

/-- States outside every literal are alike. -/
theorem Alike.of_not_isOpen {left right : Literal} (leftOutside : left.isOpen = false)
    (rightOutside : right.isOpen = false) : left.Alike right := by
  refine ⟨?_, fun inside => absurd inside (by simp [leftOutside])⟩
  simp only [isOpen, Option.isSome_eq_false_iff, Option.isNone_iff_eq_none] at *
  rw [leftOutside, rightOutside]

theorem Alike.isOpen_eq {left right : Literal} (alike : left.Alike right) :
    left.isOpen = right.isOpen := by
  simp only [isOpen, alike.1]

/-- One character keeps alike states alike. -/
theorem Alike.feed {left right : Literal} (alike : left.Alike right) (character : Char) :
    (left.feed character).Alike (right.feed character) := by
  obtain ⟨quotes, previous⟩ := alike
  refine ⟨?_, fun _ => rfl⟩
  simp only [Literal.feed, quoteAfter, ← quotes]
  cases found : left.quote with
  | none => rfl
  | some quote =>
    have same := previous (by simp [isOpen, found])
    simp only [same]

end Literal

namespace Nesting

/-- The groups of two nestings together. -/
def plus (base inner : Nesting) : Nesting :=
  ⟨base.parens + inner.parens, base.braces + inner.braces, base.brackets + inner.brackets⟩

@[simp]
theorem count_plus (base inner : Nesting) (kind : Delimiter) :
    (base.plus inner).count kind = base.count kind + inner.count kind := by
  cases kind <;> rfl

@[simp]
theorem depth_plus (base inner : Nesting) : (base.plus inner).depth = base.depth + inner.depth := by
  simp only [depth, plus]
  omega

/-- Groups around no groups. -/
@[simp]
theorem plus_empty (base : Nesting) : base.plus {} = base :=
  rfl

/-- Only the nesting without groups has depth zero. -/
theorem eq_empty_of_depth_eq_zero {nesting : Nesting} (shallow : nesting.depth = 0) :
    nesting = {} := by
  obtain ⟨parens, braces, brackets⟩ := nesting
  simp only [depth] at shallow
  simp only [mk.injEq]
  omega

/-- A character of code that closes nothing more than `inner` has open acts on the groups of
`inner` only. -/
theorem plus_feed {base inner : Nesting} {character : Char}
    (safe : ∀ kind, Delimiter.ofCloser? character = some kind → inner.count kind ≠ 0 ∨ base = {}) :
    (base.plus inner).feed character = base.plus (inner.feed character) := by
  refine ext_count fun other => ?_
  simp only [feed]
  cases opened : Delimiter.ofOpener? character with
  | some kind =>
    simp only [count_enter, count_plus]
    omega
  | none =>
    cases closed : Delimiter.ofCloser? character with
    | none => rfl
    | some kind =>
      simp only [count_leave, count_plus]
      rcases safe kind closed with positive | rfl
      · split
        · rename_i same
          subst same
          omega
        · omega
      · cases other <;> simp [count]

/-- Where there are no fewer groups of any kind, there are no fewer after one more character. -/
theorem count_feed_le {fewer more : Nesting} (counts : ∀ kind, fewer.count kind ≤ more.count kind)
    (character : Char) (kind : Delimiter) :
    (fewer.feed character).count kind ≤ (more.feed character).count kind := by
  have count := counts kind
  simp only [feed]
  cases Delimiter.ofOpener? character with
  | some opened => simpa using count
  | none =>
    cases Delimiter.ofCloser? character with
    | none => exact count
    | some closed =>
      simp only [count_leave]
      omega

end Nesting

namespace Scanner

/-- A fresh scan is outside every literal. -/
@[simp]
theorem inString_start : start.inString = false :=
  rfl

/-- A fresh scan is at top level. -/
@[simp]
theorem atTopLevel_start : start.atTopLevel = true :=
  rfl

/-- Is the character a closer, outside every literal, of a kind of which no group is open? -/
def isSurplus (scanner : Scanner) (character : Char) : Bool :=
  !scanner.inString &&
    match Delimiter.ofCloser? character with
    | some kind => scanner.nesting.count kind == 0
    | none => false

theorem isSurplus_eq_false_iff {scanner : Scanner} {character : Char} :
    scanner.isSurplus character = false ↔ (scanner.inString = false →
      ∀ kind, Delimiter.ofCloser? character = some kind → scanner.nesting.count kind ≠ 0) := by
  cases inside : scanner.inString <;> cases closes : Delimiter.ofCloser? character <;>
    simp [isSurplus, inside, closes]

/-- Does the scanner meet a surplus closer in the text? -/
def hasSurplus (scanner : Scanner) : Text → Bool
  | [] => false
  | character :: rest => scanner.isSurplus character || (scanner.feed character).hasSurplus rest

/-- The surplus closers of two texts in sequence are those of the first and those of the second. -/
theorem hasSurplus_append (scanner : Scanner) (front back : Text) :
    scanner.hasSurplus (front ++ back) =
      (scanner.hasSurplus front || (scanner.scan front).hasSurplus back) := by
  induction front generalizing scanner with
  | nil => rfl
  | cons character rest inductionHypothesis =>
    simp only [List.cons_append, hasSurplus, inductionHypothesis, scan_cons, Bool.or_assoc]

section Feed

variable {scanner : Scanner}

/-- Reading an opener outside every literal enters its group. -/
theorem feed_opener (outside : scanner.inString = false) (kind : Delimiter) :
    (scanner.feed kind.opener).inString = false ∧
      (scanner.feed kind.opener).nesting = scanner.nesting.enter kind := by
  have unquoted : scanner.literal.quote = none := by simpa [inString, Literal.isOpen] using outside
  cases kind <;>
    simp [feed, inString, Literal.isOpen, Literal.feed, Literal.quoteAfter, unquoted,
      Delimiter.opener, Quote.ofMark?, Nesting.feed, Delimiter.ofOpener?]

/-- Reading a closer outside every literal leaves its group. -/
theorem feed_closer (outside : scanner.inString = false) (kind : Delimiter) :
    (scanner.feed kind.closer).inString = false ∧
      (scanner.feed kind.closer).nesting = scanner.nesting.leave kind := by
  have unquoted : scanner.literal.quote = none := by simpa [inString, Literal.isOpen] using outside
  cases kind <;>
    simp [feed, inString, Literal.isOpen, Literal.feed, Literal.quoteAfter, unquoted,
      Delimiter.closer, Quote.ofMark?, Nesting.feed, Delimiter.ofOpener?, Delimiter.ofCloser?]

/-- Reading any other character outside every literal changes neither literal nor groups. -/
theorem feed_plain (outside : scanner.inString = false) {character : Char}
    (plain : isPlain character = true) :
    (scanner.feed character).inString = false ∧
      (scanner.feed character).nesting = scanner.nesting := by
  have unquoted : scanner.literal.quote = none := by simpa [inString, Literal.isOpen] using outside
  simp only [isPlain, Delimiter.isOpener, Delimiter.isCloser, Bool.and_eq_true, Bool.not_eq_true',
    Option.isNone_iff_eq_none, Option.isSome_eq_false_iff] at plain
  obtain ⟨⟨unmarked, noOpener⟩, noCloser⟩ := plain
  simp [feed, inString, Literal.isOpen, Literal.feed, Literal.quoteAfter, unquoted, unmarked,
    Nesting.feed, noOpener, noCloser]

/-- Inside a literal too, such a character keeps to the level. -/
theorem atTopLevel_feed_of_plain {character : Char} (plain : isPlain character = true) :
    (scanner.feed character).atTopLevel = scanner.atTopLevel := by
  cases inside : scanner.inString with
  | false =>
    obtain ⟨outside, level⟩ := feed_plain inside plain
    simp [Scanner.atTopLevel, Scanner.depth, outside, level, inside]
  | true =>
    obtain ⟨quote, opened⟩ := Option.isSome_iff_exists.mp inside
    have unmarked : character ≠ quote.mark := by
      rintro rfl
      simp [isPlain] at plain
    have still : (scanner.feed character).inString = true := by
      simp [feed, inString, Literal.isOpen, Literal.feed, Literal.quoteAfter, opened, unmarked]
    simp [Scanner.atTopLevel, inside, still]

/-- Text without quotes and delimiters keeps to the level. -/
theorem atTopLevel_scan_of_plain {text : Text} (plain : text.all isPlain = true) :
    (scanner.scan text).atTopLevel = scanner.atTopLevel := by
  induction text generalizing scanner with
  | nil => rfl
  | cons character rest inductionHypothesis =>
    simp only [List.all_cons, Bool.and_eq_true] at plain
    rw [scan_cons, inductionHypothesis plain.2, atTopLevel_feed_of_plain plain.1]

/-- A character of an enclosed content leaves its literal open. -/
theorem feed_enclosed {quote : Quote} {previous character : Char}
    (inside : scanner.literal = ⟨some quote, some previous⟩)
    (enclosed : character ≠ quote.mark ∨ previous = '\\') :
    (scanner.feed character).literal = ⟨some quote, some character⟩ := by
  have kept : ¬(character = quote.mark ∧ previous ≠ '\\') := fun ⟨marked, unescaped⟩ =>
    enclosed.elim (· marked) unescaped
  simp [feed, Literal.feed, Literal.quoteAfter, inside, kept]

/-- From inside a literal, an enclosed content and the mark lead out of it and past no surplus
closer. -/
theorem scan_enclosed {quote : Quote} {previous : Char} {content : Text}
    (inside : scanner.literal = ⟨some quote, some previous⟩)
    (enclosed : quote.enclosesAfter previous content = true) :
    (scanner.scan (content ++ [quote.mark])).inString = false ∧
      (scanner.scan (content ++ [quote.mark])).nesting = scanner.nesting ∧
      scanner.hasSurplus (content ++ [quote.mark]) = false := by
  have quoted : scanner.inString = true := by simp [inString, Literal.isOpen, inside]
  induction content generalizing scanner previous with
  | nil =>
    simp only [Quote.enclosesAfter, bne_iff_ne] at enclosed
    simp [feed, isSurplus, hasSurplus, inString, Literal.isOpen, Literal.feed,
      Literal.quoteAfter, inside, enclosed]
  | cons character rest inductionHypothesis =>
    simp only [Quote.enclosesAfter, Bool.and_eq_true, Bool.or_eq_true, bne_iff_ne, beq_iff_eq]
      at enclosed
    have stays := feed_enclosed inside enclosed.1
    have rest := inductionHypothesis stays enclosed.2 (by simp [inString, Literal.isOpen, stays])
    have groups : (scanner.feed character).nesting = scanner.nesting := by simp [feed, quoted]
    rw [groups] at rest
    simpa [hasSurplus, isSurplus, quoted] using rest

end Feed

/-- `outer` reads the text that `inner` reads, inside the groups of `base`. -/
structure Within (base : Nesting) (inner outer : Scanner) : Prop where
  literal : inner.literal.Alike outer.literal
  nesting : outer.nesting = base.plus inner.nesting

namespace Within

variable {base : Nesting} {inner outer : Scanner}

/-- A fresh scan may stand for a scan outside every literal. -/
theorem start (outside : outer.inString = false) : Within outer.nesting Scanner.start outer :=
  ⟨.of_not_isOpen rfl outside, rfl⟩

theorem inString_eq (within : Within base inner outer) : inner.inString = outer.inString :=
  within.literal.isOpen_eq

/-- The outer scan is at top level exactly if the inner one is and nothing is open around it. -/
theorem atTopLevel_iff (within : Within base inner outer) :
    outer.atTopLevel = true ↔ base.depth = 0 ∧ inner.atTopLevel = true := by
  simp only [Scanner.atTopLevel, Scanner.depth, within.inString_eq, within.nesting,
    Nesting.depth_plus, Bool.and_eq_true, beq_iff_eq, Nat.add_eq_zero_iff]
  exact and_left_comm

/-- Where nothing is open around the text, both scans are at top level or neither is. -/
theorem atTopLevel_eq (within : Within {} inner outer) : inner.atTopLevel = outer.atTopLevel := by
  apply Bool.eq_iff_iff.mpr
  rw [within.atTopLevel_iff]
  exact (and_iff_right rfl).symm

/-- One character keeps the relation, unless it is a surplus closer that meets a group of
`base`. -/
theorem feed (within : Within base inner outer) {character : Char}
    (safe : inner.isSurplus character = false ∨ base = {}) :
    Within base (inner.feed character) (outer.feed character) := by
  refine ⟨within.literal.feed character, ?_⟩
  simp only [Scanner.feed, ← within.inString_eq, within.nesting]
  cases inside : inner.inString with
  | true => rfl
  | false =>
    apply Nesting.plus_feed
    intro kind closes
    exact safe.imp_left fun regular => isSurplus_eq_false_iff.mp regular inside kind closes

/-- A text without surplus closers keeps the relation. -/
theorem scan (within : Within base inner outer) {text : Text}
    (safe : inner.hasSurplus text = false ∨ base = {}) :
    Within base (inner.scan text) (outer.scan text) := by
  induction text generalizing inner outer with
  | nil => exact within
  | cons character rest inductionHypothesis =>
    simp only [hasSurplus, Bool.or_eq_false_iff] at safe
    exact inductionHypothesis (within.feed (safe.imp_left And.left)) (safe.imp_left And.right)

end Within

/-- Both scanners stand in the same literal, and `outer` in no fewer groups of any kind. -/
structure Below (inner outer : Scanner) : Prop where
  literal : inner.literal.Alike outer.literal
  nesting : ∀ kind, inner.nesting.count kind ≤ outer.nesting.count kind

namespace Below

variable {inner outer : Scanner}

/-- A fresh scan is below every scan outside a literal. -/
theorem start (outside : outer.inString = false) : Below Scanner.start outer :=
  ⟨.of_not_isOpen rfl outside, fun kind => by cases kind <;> exact Nat.zero_le _⟩

/-- One character keeps the relation, surplus closers included. -/
theorem feed (below : Below inner outer) (character : Char) :
    Below (inner.feed character) (outer.feed character) := by
  have sameSide : inner.inString = outer.inString := below.literal.isOpen_eq
  refine ⟨below.literal.feed character, fun kind => ?_⟩
  simp only [Scanner.feed, sameSide]
  split
  · exact below.nesting kind
  · exact Nesting.count_feed_le below.nesting character kind

/-- Below a scan at top level a scan is at top level. -/
theorem atTopLevel (below : Below inner outer) (top : outer.atTopLevel = true) :
    inner.atTopLevel = true := by
  have sameSide : inner.inString = outer.inString := below.literal.isOpen_eq
  simp only [Scanner.atTopLevel, Scanner.depth, Nesting.depth_eq_sum, Bool.and_eq_true, beq_iff_eq,
    sameSide] at top ⊢
  have parens := below.nesting .paren
  have braces := below.nesting .brace
  have brackets := below.nesting .bracket
  exact ⟨top.1, by omega⟩

end Below

end Scanner

/-- A fresh scan of the text meets no surplus closer and ends at top level. -/
def isClosed (text : Text) : Bool :=
  !Scanner.start.hasSurplus text && (Scanner.start.scan text).atTopLevel

section Closed

variable {text front back : Text}

theorem isClosed_iff : isClosed text = true ↔
    Scanner.start.hasSurplus text = false ∧ (Scanner.start.scan text).inString = false ∧
      (Scanner.start.scan text).nesting = {} := by
  simp only [isClosed, Scanner.atTopLevel, Scanner.depth, Bool.and_eq_true, Bool.not_eq_true',
    beq_iff_eq]
  refine and_congr_right fun _ => and_congr_right fun _ => ⟨Nesting.eq_empty_of_depth_eq_zero, ?_⟩
  intro empty
  rw [empty]
  rfl

/-- The scan of a closed text inside open groups. -/
theorem within_of_closed {scanner : Scanner} (outside : scanner.inString = false)
    (closed : isClosed text = true) :
    Scanner.Within scanner.nesting (Scanner.start.scan text) (scanner.scan text) :=
  (Scanner.Within.start outside).scan (.inl (isClosed_iff.mp closed).1)

/-- A closed text ends outside every literal. -/
theorem inString_scan_of_closed {scanner : Scanner} (outside : scanner.inString = false)
    (closed : isClosed text = true) : (scanner.scan text).inString = false := by
  rw [← (within_of_closed outside closed).inString_eq]
  exact (isClosed_iff.mp closed).2.1

/-- A closed text leaves the groups around it as they were. -/
theorem nesting_scan_of_closed {scanner : Scanner} (outside : scanner.inString = false)
    (closed : isClosed text = true) : (scanner.scan text).nesting = scanner.nesting := by
  rw [(within_of_closed outside closed).nesting, (isClosed_iff.mp closed).2.2, Nesting.plus_empty]

/-- A closed text is read past: what follows it is scanned as if it were not there. -/
theorem within_behind_closed {scanner : Scanner} (outside : scanner.inString = false)
    (closed : isClosed text = true) : Scanner.Within {} (scanner.scan text) scanner := by
  refine ⟨.of_not_isOpen (inString_scan_of_closed outside closed) outside, ?_⟩
  rw [nesting_scan_of_closed outside closed]
  simp [Nesting.plus]

/-- A scanner at top level is at top level again after a closed text. -/
theorem atTopLevel_scan_of_closed {scanner : Scanner} (top : scanner.atTopLevel = true)
    (closed : isClosed text = true) : (scanner.scan text).atTopLevel = true := by
  simp only [Scanner.atTopLevel, Scanner.depth, Bool.and_eq_true, Bool.not_eq_true'] at top ⊢
  rw [nesting_scan_of_closed top.1 closed]
  exact ⟨inString_scan_of_closed top.1 closed, top.2⟩

/-- A closed text has no part in the level that is reached behind it. -/
theorem atTopLevel_scan_append (closed : isClosed front = true) :
    (Scanner.start.scan (front ++ back)).atTopLevel = (Scanner.start.scan back).atTopLevel := by
  obtain ⟨-, outside, level⟩ := isClosed_iff.mp closed
  have within := Scanner.Within.start outside
  rw [level] at within
  rw [Scanner.scan_append]
  exact (within.scan (.inr rfl)).atTopLevel_eq.symm

/-- Text without surplus closers has none inside open groups either. -/
theorem hasSurplus_of_within {base : Nesting} {inner outer : Scanner}
    (within : Scanner.Within base inner outer) (regular : inner.hasSurplus text = false) :
    outer.hasSurplus text = false := by
  induction text generalizing inner outer with
  | nil => rfl
  | cons character rest inductionHypothesis =>
    simp only [Scanner.hasSurplus, Bool.or_eq_false_iff] at regular ⊢
    refine ⟨?_, inductionHypothesis (within.feed (.inl regular.1)) regular.2⟩
    rw [Scanner.isSurplus_eq_false_iff, within.nesting, ← within.inString_eq]
    intro outside kind closes
    have positive := Scanner.isSurplus_eq_false_iff.mp regular.1 outside kind closes
    rw [Nesting.count_plus]
    omega

/-- The beginning of a closed text has no surplus closer. -/
theorem hasSurplus_of_closed_append (closed : isClosed (front ++ back) = true) :
    Scanner.start.hasSurplus front = false := by
  have parts := Scanner.hasSurplus_append .start front back
  rw [(isClosed_iff.mp closed).1] at parts
  exact (Bool.or_eq_false_iff.mp parts.symm).1

/-- Closed texts in sequence are closed. -/
theorem isClosed_append (frontClosed : isClosed front = true) (backClosed : isClosed back = true) :
    isClosed (front ++ back) = true := by
  obtain ⟨frontRegular, outside, level⟩ := isClosed_iff.mp frontClosed
  have within : Scanner.Within {} .start (Scanner.start.scan front) := by
    have found := Scanner.Within.start outside
    rwa [level] at found
  refine isClosed_iff.mpr ⟨?_, ?_, ?_⟩
  · rw [Scanner.hasSurplus_append, frontRegular,
      hasSurplus_of_within within (isClosed_iff.mp backClosed).1]
    rfl
  · rw [Scanner.scan_append]
    exact inString_scan_of_closed outside backClosed
  · rw [Scanner.scan_append, nesting_scan_of_closed outside backClosed, level]

/-- A group around a closed text is closed. -/
theorem isClosed_group (kind : Delimiter) (closed : isClosed text = true) :
    isClosed (kind.opener :: (text ++ [kind.closer])) = true := by
  obtain ⟨entered, opened⟩ := Scanner.feed_opener Scanner.inString_start kind
  have outside := inString_scan_of_closed entered closed
  have nested := nesting_scan_of_closed entered closed
  have regular := hasSurplus_of_within (Scanner.Within.start entered) (isClosed_iff.mp closed).1
  obtain ⟨left, shut⟩ := Scanner.feed_closer outside kind
  have opens : Scanner.start.isSurplus kind.opener = false := by cases kind <;> rfl
  have closes : ((Scanner.start.feed kind.opener).scan text).isSurplus kind.closer = false := by
    simp [Scanner.isSurplus, nested, opened]
  refine isClosed_iff.mpr ⟨?_, ?_, ?_⟩
  · simp [Scanner.hasSurplus, Scanner.hasSurplus_append, opens, regular, closes]
  · rwa [Scanner.scan_cons, Scanner.scan_append]
  · rw [Scanner.scan_cons, Scanner.scan_append, Scanner.scan_cons, Scanner.scan_nil, shut, nested,
      opened]
    cases kind <;> rfl

/-- A text without quotes and delimiters is closed. -/
theorem isClosed_of_plain (plain : text.all isPlain = true) : isClosed text = true := by
  induction text with
  | nil => rfl
  | cons character rest inductionHypothesis =>
    simp only [List.all_cons, Bool.and_eq_true] at plain
    rw [← List.singleton_append]
    refine isClosed_append ?_ (inductionHypothesis plain.2)
    obtain ⟨outside, level⟩ := Scanner.feed_plain Scanner.inString_start plain.1
    refine isClosed_iff.mpr ⟨?_, outside, level⟩
    have noCloser := plain.1
    simp only [isPlain, Delimiter.isCloser, Bool.and_eq_true, Bool.not_eq_true',
      Option.isSome_eq_false_iff, Option.isNone_iff_eq_none] at noCloser
    simp [Scanner.hasSurplus, Scanner.isSurplus, noCloser.2]

/-- A character that is neither a quote nor a delimiter may stand before a closed text. -/
theorem isClosed_cons {character : Char} (plain : isPlain character = true)
    (closed : isClosed text = true) : isClosed (character :: text) = true := by
  rw [← List.singleton_append]
  exact isClosed_append (isClosed_of_plain (by simpa using plain)) closed

/-- A literal is closed. -/
theorem isClosed_around {quote : Quote} (enclosed : quote.encloses text = true) :
    isClosed (quote.around text) = true := by
  have opens : (Scanner.start.feed quote.mark).literal = ⟨some quote, some quote.mark⟩ := by
    cases quote <;> rfl
  have level : (Scanner.start.feed quote.mark).nesting = {} := by cases quote <;> rfl
  obtain ⟨outside, nested, regular⟩ := Scanner.scan_enclosed opens enclosed
  have noCloser : Scanner.start.isSurplus quote.mark = false := by cases quote <;> rfl
  refine isClosed_iff.mpr ⟨?_, outside, nested.trans level⟩
  rw [Quote.around, Scanner.hasSurplus, noCloser, regular]
  rfl

end Closed

end RouteCatalog
