import RouteCatalog.Proofs.Delimiter.Closed

/-!
# Splitting and closed texts

Splitting is compositional: `splitFrom_append_cons` states that a separator at top level cuts the text
in two that are split on their own, and `splitTopLevel_append` and `splitTopLevel_cons` what a closed
text in front adds to the parts. What stands between the delimiters of a group neither is split nor
ends the group's block, as `whole_group` and `interior?_group` state.
-/

namespace RouteCatalog

variable {isSeparator : Char → Bool} {scanner : Scanner} {text front back : Text}

/-- Scans that differ in what was read last outside a literal split alike. -/
theorem splitFrom_within {inner outer : Scanner} (within : Scanner.Within {} inner outer) :
    splitFrom isSeparator inner text = splitFrom isSeparator outer text := by
  induction text generalizing inner outer with
  | nil => rfl
  | cons character rest inductionHypothesis =>
    simp only [splitFrom, within.atTopLevel_eq, inductionHypothesis (within.feed (.inr rfl))]

/-- A text of one part, put before another, belongs to the other's first part. -/
theorem splitFrom_append (whole : splitFrom isSeparator scanner front = [front]) (back : Text) :
    splitFrom isSeparator scanner (front ++ back) =
      (splitFrom isSeparator (scanner.scan front) back).modifyHead (front ++ ·) := by
  induction front generalizing scanner with
  | nil =>
    obtain ⟨first, others, found⟩ :=
      List.exists_cons_of_ne_nil (splitFrom_ne_nil isSeparator scanner back)
    simp [found]
  | cons character rest inductionHypothesis =>
    obtain ⟨first, others, found⟩ :=
      List.exists_cons_of_ne_nil (splitFrom_ne_nil isSeparator (scanner.feed character) rest)
    simp only [splitFrom, found] at whole
    split at whole
    · simp at whole
    · rename_i inside
      simp only [List.modifyHead_cons, List.cons.injEq, true_and] at whole
      obtain ⟨rfl, rfl⟩ := whole
      rw [List.cons_append, splitFrom, if_neg inside, inductionHypothesis found,
        List.modifyHead_modifyHead, Scanner.scan_cons]
      rfl

/-- Inside a group nothing is split. -/
theorem splitFrom_of_deep {base : Nesting} {inner : Scanner}
    (within : Scanner.Within base inner scanner) (deep : base.depth ≠ 0)
    (regular : inner.hasSurplus text = false) : splitFrom isSeparator scanner text = [text] := by
  induction text generalizing inner scanner with
  | nil => rfl
  | cons character rest inductionHypothesis =>
    simp only [Scanner.hasSurplus, Bool.or_eq_false_iff] at regular
    have nested : ¬scanner.atTopLevel = true := fun top => deep (within.atTopLevel_iff.mp top).1
    rw [splitFrom, inductionHypothesis (within.feed (.inl regular.1)) regular.2]
    simp [nested]

/-- A scanner at top level splits like a fresh one. -/
theorem splitFrom_of_atTopLevel (top : scanner.atTopLevel = true) :
    splitFrom isSeparator scanner text = splitTopLevel isSeparator text := by
  simp only [Scanner.atTopLevel, Scanner.depth, Bool.and_eq_true, Bool.not_eq_true',
    beq_iff_eq] at top
  have within := Scanner.Within.start top.1
  rw [Nesting.eq_empty_of_depth_eq_zero top.2] at within
  exact (splitFrom_within within).symm

/-- A closed text of one part, put before another, belongs to the other's first part. -/
theorem splitTopLevel_append (closed : isClosed front = true)
    (whole : splitTopLevel isSeparator front = [front]) :
    splitTopLevel isSeparator (front ++ back) =
      (splitTopLevel isSeparator back).modifyHead (front ++ ·) := by
  rw [splitTopLevel, splitFrom_append whole,
    splitFrom_of_atTopLevel (atTopLevel_scan_of_closed rfl closed)]

/-- Closed texts of one part in sequence are of one part. -/
theorem whole_append (closed : isClosed front = true)
    (frontWhole : splitTopLevel isSeparator front = [front])
    (backWhole : splitTopLevel isSeparator back = [back]) :
    splitTopLevel isSeparator (front ++ back) = [front ++ back] := by
  rw [splitTopLevel_append closed frontWhole, backWhole]
  rfl

/-- A closed text of one part and a separator behind it give that part and what follows. -/
theorem splitTopLevel_cons {separator : Char} (separates : isSeparator separator = true)
    (plain : isPlain separator = true) (closed : isClosed front = true)
    (whole : splitTopLevel isSeparator front = [front]) :
    splitTopLevel isSeparator (front ++ separator :: back) =
      front :: splitTopLevel isSeparator back := by
  have read : splitTopLevel isSeparator (separator :: back) =
      [] :: splitTopLevel isSeparator back := by
    have alone : isClosed [separator] = true := isClosed_of_plain (by simpa using plain)
    have top := atTopLevel_scan_of_closed Scanner.atTopLevel_start alone
    rw [splitTopLevel, splitFrom, if_pos (by simp [separates])]
    exact congrArg _ (splitFrom_of_atTopLevel top)
  rw [splitTopLevel_append closed whole, read, List.modifyHead_cons, List.append_nil]

/-- A separator at top level ends what is before it and begins what is behind it. -/
theorem splitFrom_append_cons {separator : Char} (separates : isSeparator separator = true)
    (plain : isPlain separator = true) (top : (scanner.scan front).atTopLevel = true)
    (back : Text) : splitFrom isSeparator scanner (front ++ separator :: back) =
      splitFrom isSeparator scanner front ++ splitTopLevel isSeparator back := by
  induction front generalizing scanner with
  | nil =>
    have alone : isClosed [separator] = true := isClosed_of_plain (by simpa using plain)
    have behind : (scanner.feed separator).atTopLevel = true := atTopLevel_scan_of_closed top alone
    have level : scanner.atTopLevel = true := top
    have cut : (isSeparator separator && scanner.atTopLevel) = true := by simp [separates, level]
    simp only [List.nil_append, splitFrom, cut, if_true, splitFrom_of_atTopLevel behind]
    rfl
  | cons character rest inductionHypothesis =>
    have following := inductionHypothesis top
    obtain ⟨first, others, found⟩ :=
      List.exists_cons_of_ne_nil (splitFrom_ne_nil isSeparator (scanner.feed character) rest)
    rw [found] at following
    simp only [List.cons_append, splitFrom, following, found]
    split <;> simp

/-- The beginning of a text of one part is of one part. -/
theorem whole_of_append (whole : splitFrom isSeparator scanner (front ++ back) = [front ++ back]) :
    splitFrom isSeparator scanner front = [front] := by
  induction front generalizing scanner with
  | nil => rfl
  | cons character rest inductionHypothesis =>
    rw [List.cons_append, splitFrom] at whole
    rw [splitFrom]
    split at whole
    · simp at whole
    · rename_i inside
      obtain ⟨first, others, found⟩ := List.exists_cons_of_ne_nil
        (splitFrom_ne_nil isSeparator (scanner.feed character) (rest ++ back))
      rw [found, List.modifyHead_cons, List.cons.injEq, List.cons.injEq] at whole
      obtain ⟨⟨-, rfl⟩, rfl⟩ := whole
      rw [if_neg inside, inductionHypothesis found]
      rfl

/-- In a text of one part no separator is at top level. -/
theorem atTopLevel_of_whole {separator : Char} (separates : isSeparator separator = true)
    (whole : splitFrom isSeparator scanner (front ++ separator :: back) =
      [front ++ separator :: back]) : (scanner.scan front).atTopLevel = false := by
  refine Bool.eq_false_iff.mpr fun top => ?_
  have begins : splitFrom isSeparator scanner front = [front] := whole_of_append whole
  have parts := splitFrom_append begins (separator :: back)
  have cut : (isSeparator separator && (scanner.scan front).atTopLevel) = true := by
    simp [separates, top]
  simp only [whole, splitFrom, cut, if_true, List.modifyHead_cons] at parts
  have lengths := congrArg List.length parts
  simp only [List.length_cons, List.length_nil] at lengths
  have others := splitFrom_ne_nil isSeparator ((scanner.scan front).feed separator) back
  exact others (List.length_eq_zero_iff.mp (by omega))

/-- The first part of a text is the whole of it, or ends before a separator at top level. -/
theorem splitFrom_eq_cons {first : Text} {others : List Text}
    (parts : splitFrom isSeparator scanner text = first :: others) :
    splitFrom isSeparator scanner first = [first] ∧
      ((text = first ∧ others = []) ∨ ∃ separator rest, text = first ++ separator :: rest ∧
        isSeparator separator = true ∧ (scanner.scan first).atTopLevel = true ∧
        others = splitFrom isSeparator ((scanner.scan first).feed separator) rest) := by
  induction text generalizing scanner first with
  | nil =>
    simp only [splitFrom, List.cons.injEq] at parts
    obtain ⟨rfl, rfl⟩ := parts
    exact ⟨rfl, .inl ⟨rfl, rfl⟩⟩
  | cons character rest inductionHypothesis =>
    rw [splitFrom] at parts
    split at parts
    · rename_i cut
      simp only [Bool.and_eq_true] at cut
      simp only [List.cons.injEq] at parts
      obtain ⟨rfl, rfl⟩ := parts
      exact ⟨rfl, .inr ⟨character, rest, rfl, cut.1, cut.2, rfl⟩⟩
    · rename_i inside
      obtain ⟨next, following, found⟩ := List.exists_cons_of_ne_nil
        (splitFrom_ne_nil isSeparator (scanner.feed character) rest)
      rw [found, List.modifyHead_cons, List.cons.injEq] at parts
      obtain ⟨rfl, rfl⟩ := parts
      obtain ⟨whole, shape⟩ := inductionHypothesis found
      refine ⟨by rw [splitFrom, if_neg inside, whole]; rfl, ?_⟩
      rcases shape with ⟨rfl, rfl⟩ | ⟨separator, behind, rfl, separates, top, same⟩
      · exact .inl ⟨rfl, rfl⟩
      · exact .inr ⟨separator, behind, rfl, separates, top, same⟩

/-- A text without separators is one part, wherever the scan stands. -/
theorem splitFrom_of_not_separator
    (absent : text.all (fun character => !isSeparator character) = true) :
    splitFrom isSeparator scanner text = [text] := by
  induction text generalizing scanner with
  | nil => rfl
  | cons character rest inductionHypothesis =>
    simp only [List.all_cons, Bool.and_eq_true, Bool.not_eq_true'] at absent
    simp [splitFrom, absent.1, inductionHypothesis absent.2]

/-- A text without separators is one part. -/
theorem whole_of_not_separator (absent : text.all (fun character => !isSeparator character) = true) :
    splitTopLevel isSeparator text = [text] :=
  splitFrom_of_not_separator absent

/-- Text without separators at the end belongs to the last part. -/
theorem exists_splitFrom_append (isSeparator : Char → Bool) (scanner : Scanner) (front : Text) :
    ∃ init last, splitFrom isSeparator scanner front = init ++ [last] ∧
      ∀ back : Text, back.all (fun character => !isSeparator character) = true →
        splitFrom isSeparator scanner (front ++ back) = init ++ [last ++ back] := by
  induction front generalizing scanner with
  | nil => exact ⟨[], [], rfl, fun back absent => splitFrom_of_not_separator absent⟩
  | cons character rest inductionHypothesis =>
    obtain ⟨init, last, found, longer⟩ := inductionHypothesis (scanner.feed character)
    by_cases cut : (isSeparator character && scanner.atTopLevel) = true
    · refine ⟨[] :: init, last, by simp [splitFrom, cut, found], fun back absent => ?_⟩
      simp [splitFrom, cut, longer back absent]
    · cases init with
      | nil =>
        refine ⟨[], character :: last, by simp [splitFrom, cut, found], fun back absent => ?_⟩
        simp [splitFrom, cut, longer back absent]
      | cons first init =>
        refine ⟨(character :: first) :: init, last, by simp [splitFrom, cut, found],
          fun back absent => ?_⟩
        simp [splitFrom, cut, longer back absent]

/-- A text of one part is of one part too where more groups are open and fewer characters separate. -/
theorem splitFrom_of_below {inner : Scanner} {separatesMore : Char → Bool}
    (below : Scanner.Below inner scanner)
    (fewer : ∀ character, isSeparator character = true → separatesMore character = true)
    (whole : splitFrom separatesMore inner text = [text]) :
    splitFrom isSeparator scanner text = [text] := by
  induction text generalizing inner scanner with
  | nil => rfl
  | cons character rest inductionHypothesis =>
    obtain ⟨first, others, found⟩ := List.exists_cons_of_ne_nil
      (splitFrom_ne_nil separatesMore (inner.feed character) rest)
    rw [splitFrom, found] at whole
    split at whole
    · simp at whole
    · rename_i inside
      have uncut : ¬(isSeparator character && scanner.atTopLevel) = true := by
        simp only [Bool.and_eq_true] at inside ⊢
        rintro ⟨separates, top⟩
        exact inside ⟨fewer character separates, below.atTopLevel top⟩
      obtain ⟨rfl, rfl⟩ : first = rest ∧ others = [] := by simpa using whole
      rw [splitFrom, if_neg uncut, inductionHypothesis (below.feed character) found]
      rfl

/-- The parts between separators stand in the text, the first of them at its beginning. -/
theorem isInfix_of_mem_splitFrom (isSeparator : Char → Bool) (scanner : Scanner) (text : Text) :
    (∀ first ∈ (splitFrom isSeparator scanner text).head?, first <+: text) ∧
      ∀ part ∈ splitFrom isSeparator scanner text, part <:+: text := by
  induction text generalizing scanner with
  | nil => simp [splitFrom]
  | cons character rest inductionHypothesis =>
    obtain ⟨begins, within⟩ := inductionHypothesis (scanner.feed character)
    obtain ⟨first, others, found⟩ := List.exists_cons_of_ne_nil
      (splitFrom_ne_nil isSeparator (scanner.feed character) rest)
    rw [found] at begins within
    have firstBegins : first <+: rest := begins first rfl
    rw [splitFrom, found]
    split
    · refine ⟨by simp, List.forall_mem_cons.mpr ⟨List.nil_infix, fun part member => ?_⟩⟩
      exact (within part member).trans (List.suffix_cons character rest).isInfix
    · have longer : character :: first <+: character :: rest :=
        List.cons_prefix_cons.mpr ⟨rfl, firstBegins⟩
      refine ⟨by simpa using longer, List.forall_mem_cons.mpr ⟨longer.isInfix, fun part member => ?_⟩⟩
      exact (within part (List.mem_cons_of_mem first member)).trans
        (List.suffix_cons character rest).isInfix

/-- The last part of a text is the whole of it, or begins behind a separator. -/
theorem splitFrom_eq_concat {init : List Text} {last : Text}
    (parts : splitFrom isSeparator scanner text = init ++ [last]) :
    (init = [] ∧ text = last) ∨ ∃ before separator, text = before ++ separator :: last ∧
      isSeparator separator = true := by
  induction init generalizing scanner text with
  | nil =>
    obtain ⟨-, ⟨rfl, -⟩ | ⟨separator, rest, -, -, -, none⟩⟩ := splitFrom_eq_cons parts
    · exact .inl ⟨rfl, rfl⟩
    · exact absurd none.symm (splitFrom_ne_nil isSeparator _ rest)
  | cons first init inductionHypothesis =>
    obtain ⟨-, ⟨-, none⟩ | ⟨separator, rest, rfl, separates, -, following⟩⟩ := splitFrom_eq_cons parts
    · simp at none
    · rcases inductionHypothesis following.symm with ⟨-, rfl⟩ | ⟨before, other, rfl, separatesLater⟩
      · exact .inr ⟨first, separator, rfl, separates⟩
      · exact .inr ⟨first ++ separator :: before, other, by simp, separatesLater⟩

/-- Text without separators behind a text of one part belongs to that part. -/
theorem whole_append_of_not_separator (whole : splitTopLevel isSeparator front = [front])
    (absent : back.all (fun character => !isSeparator character) = true) :
    splitTopLevel isSeparator (front ++ back) = [front ++ back] := by
  rw [splitTopLevel, splitFrom_append whole, splitFrom_of_not_separator absent]
  rfl

/-- What stands behind a closed text in one part is of one part. -/
theorem whole_behind (closed : isClosed front = true)
    (whole : splitTopLevel isSeparator (front ++ back) = [front ++ back]) :
    splitTopLevel isSeparator back = [back] := by
  rw [splitTopLevel_append closed (whole_of_append whole)] at whole
  obtain ⟨first, others, found⟩ := List.exists_cons_of_ne_nil
    (splitFrom_ne_nil isSeparator .start back)
  rw [splitTopLevel, found, List.modifyHead_cons, List.cons.injEq, List.append_cancel_left_eq]
    at whole
  rw [splitTopLevel, found, whole.1, whole.2]

/-- A group around a closed text is one part. -/
theorem whole_group (kind : Delimiter) (opens : isSeparator kind.opener = false)
    (closed : isClosed text = true) :
    splitTopLevel isSeparator (kind.opener :: (text ++ [kind.closer])) =
      [kind.opener :: (text ++ [kind.closer])] := by
  obtain ⟨outside, entered⟩ := Scanner.feed_opener Scanner.inString_start kind
  have deep : (Scanner.start.feed kind.opener).nesting.depth ≠ 0 := by
    rw [entered]
    cases kind <;> simp [Nesting.enter, Nesting.depth]
  have inside : splitFrom isSeparator (Scanner.start.feed kind.opener) text = [text] :=
    splitFrom_of_deep (.start outside) deep (isClosed_iff.mp closed).1
  have nested : ((Scanner.start.feed kind.opener).scan text).atTopLevel = false := by
    simp [Scanner.atTopLevel, Scanner.depth, nesting_scan_of_closed outside closed, deep]
  simp [splitTopLevel, splitFrom, opens, splitFrom_append inside, nested]

/-- A literal is one part. -/
theorem whole_around {quote : Quote} (opens : isSeparator quote.mark = false)
    (enclosed : quote.encloses text = true) :
    splitTopLevel isSeparator (quote.around text) = [quote.around text] := by
  have inside : ∀ (scanner : Scanner) (previous : Char),
      scanner.literal = ⟨some quote, some previous⟩ →
      quote.enclosesAfter previous text = true →
      splitFrom isSeparator scanner (text ++ [quote.mark]) = [text ++ [quote.mark]] := by
    clear enclosed
    induction text with
    | nil =>
      intro scanner previous inside _
      simp [splitFrom, opens]
    | cons character rest inductionHypothesis =>
      intro scanner previous inside enclosed
      simp only [Quote.enclosesAfter, Bool.and_eq_true, Bool.or_eq_true, bne_iff_ne, beq_iff_eq]
        at enclosed
      have quoted : scanner.atTopLevel = false := by
        simp [Scanner.atTopLevel, Scanner.inString, Literal.isOpen, inside]
      have following := inductionHypothesis (scanner.feed character) character
        (Scanner.feed_enclosed inside enclosed.1) enclosed.2
      simp [splitFrom, quoted, following]
  have opened : (Scanner.start.feed quote.mark).literal = ⟨some quote, some quote.mark⟩ := by
    cases quote <;> rfl
  simp [splitTopLevel, Quote.around, splitFrom, opens, inside _ _ opened enclosed]

/-- Scans that differ in what was read last outside a literal reach top level at the same place. -/
theorem lengthToTopLevel?_within {inner outer : Scanner} (within : Scanner.Within {} inner outer) :
    lengthToTopLevel? inner text = lengthToTopLevel? outer text := by
  induction text generalizing inner outer with
  | nil => rfl
  | cons character rest inductionHypothesis =>
    have fed : Scanner.Within {} (inner.feed character) (outer.feed character) := within.feed (.inr rfl)
    simp only [lengthToTopLevel?, fed.atTopLevel_eq, inductionHypothesis fed]

/-- Inside a group nothing leads to top level. -/
theorem lengthToTopLevel?_of_deep {base : Nesting} {inner : Scanner}
    (within : Scanner.Within base inner scanner) (deep : base.depth ≠ 0)
    (regular : inner.hasSurplus text = false) : lengthToTopLevel? scanner text = none := by
  induction text generalizing inner scanner with
  | nil => rfl
  | cons character rest inductionHypothesis =>
    simp only [Scanner.hasSurplus, Bool.or_eq_false_iff] at regular
    have fed := within.feed (.inl regular.1)
    have nested : ¬(scanner.feed character).atTopLevel = true :=
      fun top => deep (fed.atTopLevel_iff.mp top).1
    rw [lengthToTopLevel?, if_neg nested, inductionHypothesis fed regular.2]
    rfl

/-- A text that does not lead to top level is passed over. -/
theorem lengthToTopLevel?_append (nested : lengthToTopLevel? scanner front = none) (back : Text) :
    lengthToTopLevel? scanner (front ++ back) =
      (lengthToTopLevel? (scanner.scan front) back).map (front.length + ·) := by
  induction front generalizing scanner with
  | nil => simp
  | cons character rest inductionHypothesis =>
    rw [lengthToTopLevel?] at nested
    split at nested
    · cases nested
    · rename_i deep
      have further := inductionHypothesis (Option.map_eq_none_iff.mp nested)
      rw [List.cons_append, lengthToTopLevel?, if_neg deep, further, Option.map_map,
        Scanner.scan_cons]
      congr 1
      funext length
      simp only [Function.comp_apply, List.length_cons]
      omega

/-- Behind an opener a text without surplus closers does not lead to top level. -/
theorem lengthToTopLevel?_behind_opener (kind : Delimiter)
    (regular : Scanner.start.hasSurplus text = false) :
    lengthToTopLevel? (Scanner.start.feed kind.opener) text = none := by
  obtain ⟨outside, entered⟩ := Scanner.feed_opener Scanner.inString_start kind
  refine lengthToTopLevel?_of_deep (.start outside) ?_ regular
  rw [entered]
  cases kind <;> decide

/-- The character that leads to top level is a quote or a delimiter. -/
theorem exists_of_lengthToTopLevel? {length : Nat} (nested : scanner.atTopLevel = false)
    (found : lengthToTopLevel? scanner text = some length) :
    ∃ front closer back, text = front ++ closer :: back ∧ front.length = length ∧
      isPlain closer = false := by
  induction text generalizing scanner length with
  | nil => cases found
  | cons character rest inductionHypothesis =>
    rw [lengthToTopLevel?] at found
    split at found
    · rename_i top
      cases found
      refine ⟨[], character, rest, rfl, rfl, Bool.eq_false_iff.mpr fun plain => ?_⟩
      rw [Scanner.atTopLevel_feed_of_plain plain, nested] at top
      cases top
    · rename_i deep
      obtain ⟨shorter, foundRest, rfl⟩ := Option.map_eq_some_iff.mp found
      obtain ⟨front, closer, back, rfl, rfl, notPlain⟩ :=
        inductionHypothesis (by simpa using deep) foundRest
      exact ⟨character :: front, closer, back, rfl, rfl, notPlain⟩

/-- What stands behind the character that leads to top level has no part in it. -/
theorem lengthToTopLevel?_append_eq_some_iff {length : Nat} (short : length < front.length) :
    lengthToTopLevel? scanner (front ++ back) = some length ↔
      lengthToTopLevel? scanner front = some length := by
  have taken : ∀ shorter, shorter ≤ length →
      (front ++ back).take (shorter + 1) = front.take (shorter + 1) :=
    fun shorter least => List.take_append_of_le_length (by omega)
  have long : length < (front ++ back).length := by
    rw [List.length_append]
    omega
  simp only [lengthToTopLevel?_eq_some_iff, taken length (Nat.le_refl length), short, long]
  refine and_congr_right fun _ => and_congr_right fun _ => forall₂_congr fun shorter less => ?_
  rw [taken shorter (Nat.le_of_lt less)]

/-- The block at the beginning of a text whose opener a closed text and the closer follow. -/
theorem interiorLength?_group (kind : Delimiter) (closed : isClosed text = true) :
    interiorLength? (kind.opener :: (text ++ kind.closer :: back)) = some text.length := by
  obtain ⟨outside, entered⟩ := Scanner.feed_opener Scanner.inString_start kind
  obtain ⟨left, shut⟩ := Scanner.feed_closer (inString_scan_of_closed outside closed) kind
  have top : (((Scanner.start.feed kind.opener).scan text).feed kind.closer).atTopLevel = true := by
    simp only [Scanner.atTopLevel, Scanner.depth, left, shut, nesting_scan_of_closed outside closed,
      entered]
    cases kind <;> rfl
  have nested := lengthToTopLevel?_behind_opener kind (isClosed_iff.mp closed).1
  have opens : Delimiter.isOpener kind.opener = true := by cases kind <;> rfl
  rw [interiorLength?, if_pos opens, lengthToTopLevel?_append nested, lengthToTopLevel?, if_pos top]
  rfl

/-- What stands between the delimiters of a group is its interior. -/
theorem interior?_group (kind : Delimiter) (closed : isClosed text = true) :
    interior? (kind.opener :: (text ++ kind.closer :: back)) = some text := by
  simp [interior?, interiorLength?_group kind closed]

/-- A group is a block. -/
theorem block?_group (kind : Delimiter) (closed : isClosed text = true) :
    block? (kind.opener :: (text ++ kind.closer :: back)) =
      some (kind.opener :: (text ++ [kind.closer])) := by
  simp [block?, interiorLength?_group kind closed, List.take_append, List.take_of_length_le]

/-- Behind an opener the scan is in a group. -/
theorem atTopLevel_feed_of_isOpener {opener : Char} (opens : Delimiter.isOpener opener = true) :
    (Scanner.start.feed opener).atTopLevel = false := by
  obtain ⟨kind, opened⟩ := Option.isSome_iff_exists.mp opens
  have unmarked : Scanner.start.inString = false := rfl
  cases kind <;> simp [Scanner.feed, Scanner.atTopLevel, Scanner.depth, Nesting.feed, opened, unmarked,
    Nesting.enter, Nesting.depth]

/-- A block begins with an opener and ends with a quote or a delimiter. -/
theorem exists_of_block? {block : Text} (found : block? text = some block) :
    ∃ opener interior closer back, text = opener :: (interior ++ closer :: back) ∧
      block = opener :: (interior ++ [closer]) ∧ isPlain closer = false := by
  obtain ⟨length, reached, rfl⟩ := Option.map_eq_some_iff.mp found
  unfold interiorLength? at reached
  split at reached
  · cases reached
  · rename_i opener rest
    split at reached
    · rename_i opens
      obtain ⟨interior, closer, back, rfl, rfl, notPlain⟩ :=
        exists_of_lengthToTopLevel? (atTopLevel_feed_of_isOpener opens) reached
      refine ⟨opener, interior, closer, back, rfl, ?_, notPlain⟩
      simp [List.take_append, List.take_of_length_le]
    · cases reached

/-- A text is one block exactly if it is the block at the beginning of every text that it begins. -/
theorem block?_append_eq_some_iff {opener closer : Char} :
    block? (opener :: (text ++ closer :: back)) = some (opener :: (text ++ [closer])) ↔
      isOneBlock (opener :: (text ++ [closer])) = true := by
  have shorter : (opener :: (text ++ [closer])).length - 2 = text.length := by simp
  have parts : text ++ closer :: back = text ++ [closer] ++ back := by simp
  rw [isOneBlock, shorter, beq_iff_eq, block?, Option.map_eq_some_iff]
  unfold interiorLength?
  by_cases opens : Delimiter.isOpener opener = true
  · simp only [opens, if_true, parts]
    rw [← lengthToTopLevel?_append_eq_some_iff (by simp : text.length < (text ++ [closer]).length)]
    constructor
    · rintro ⟨length, reached, same⟩
      obtain ⟨short, -, -⟩ := lengthToTopLevel?_eq_some_iff.mp reached
      have lengths := congrArg List.length same
      simp only [List.length_take, List.length_cons, List.length_append, List.length_nil]
        at lengths short
      have here : length = text.length := by omega
      rwa [here] at reached
    · intro reached
      exact ⟨text.length, reached, by simp [List.take_append, List.take_of_length_le]⟩
  · simp [opens]

end RouteCatalog
