import Mathlib.Data.Int.Order.Basic
import Mathlib.Data.List.Basic
import Mathlib.Order.Bounds.Basic
import Mathlib.Order.MinMax
import RouteCatalog.Proofs.Delimiter.Closed

/-!
# Counts and pairs

The count of a kind depends on the code of a text, which is what stands outside its literals. It is the
greatest excess of openers over closers at the end of the code (`isGreatest_countBefore`), and it is the
number of openers that are left when every closer takes the nearest free one before it
(`length_openersBefore`). A closer that finds none stands where the count is zero, and the scan of the text
without such closers differs in nothing (`within_keptBefore`).
-/

namespace RouteCatalog

variable {kind : Delimiter} {text : Text} {position : Nat} {character : Char}

/-- The character at a position, if it is outside every literal and not a mark of one. -/
def codeAt? (text : Text) (position : Nat) : Option Char :=
  if (Scanner.start.scan (text.take position)).inString then none
  else text[position]?.filter fun character => (Quote.ofMark? character).isNone

/-- The code among the first characters of a text. -/
def codeBefore (text : Text) (length : Nat) : Text :=
  (List.range length).filterMap (codeAt? text)

/-- The code of a text. -/
def codeOf (text : Text) : Text :=
  codeBefore text text.length

/-- How many groups of a kind are open after the first characters of a text. -/
def countBefore (kind : Delimiter) (text : Text) (length : Nat) : Nat :=
  (Scanner.start.scan (text.take length)).nesting.count kind

section Step

theorem scan_take_succ (found : text[position]? = some character) :
    Scanner.start.scan (text.take (position + 1)) =
      (Scanner.start.scan (text.take position)).feed character := by
  rw [List.take_add_one, found, Option.toList_some, Scanner.scan_append]
  rfl

theorem take_succ_of_none (ends : text[position]? = none) :
    text.take (position + 1) = text.take position := by
  rw [List.take_add_one, ends, Option.toList_none, List.append_nil]

theorem codeAt?_eq_some_iff : codeAt? text position = some character ↔
    (Scanner.start.scan (text.take position)).inString = false ∧ text[position]? = some character ∧
      Quote.ofMark? character = none := by
  unfold codeAt?
  split <;> simp [*, Option.filter_eq_some_iff]

/-- A character of code is counted. -/
theorem countBefore_succ (code : codeAt? text position = some character) :
    countBefore kind text (position + 1) = countBefore kind text position +
      (if character = kind.opener then 1 else 0) - (if character = kind.closer then 1 else 0) := by
  obtain ⟨outside, found, -⟩ := codeAt?_eq_some_iff.mp code
  rw [countBefore, scan_take_succ found, Scanner.feed, outside]
  exact Nesting.count_feed _ _ _

/-- The marks of literals and what is between them are not counted. -/
theorem countBefore_succ_of_none (noCode : codeAt? text position = none) :
    countBefore kind text (position + 1) = countBefore kind text position := by
  cases found : text[position]? with
  | none => rw [countBefore, take_succ_of_none found, countBefore]
  | some character =>
    rw [countBefore, scan_take_succ found, Scanner.feed, countBefore]
    cases inside : (Scanner.start.scan (text.take position)).inString with
    | true => rfl
    | false =>
      obtain ⟨quote, marks⟩ : ∃ quote, Quote.ofMark? character = some quote := by
        rw [← Option.ne_none_iff_exists']
        exact fun plain => by simp [codeAt?_eq_some_iff.mpr ⟨inside, found, plain⟩] at noCode
      obtain rfl := Quote.ofMark?_eq_some_iff.mp marks
      cases quote <;> rfl

/-- What there is at one more position comes last. -/
theorem filterMap_range_succ {α : Type} (item? : Nat → Option α) (length : Nat) :
    (List.range (length + 1)).filterMap item? =
      (List.range length).filterMap item? ++ (item? length).toList := by
  rw [List.range_succ, List.filterMap_append]
  cases found : item? length <;> simp [found]

theorem codeBefore_succ (text : Text) (position : Nat) :
    codeBefore text (position + 1) = codeBefore text position ++ (codeAt? text position).toList :=
  filterMap_range_succ _ position

end Step

section Excess

/-- How many more openers than closers of a kind are in the code. -/
def Delimiter.excess (kind : Delimiter) (code : Text) : Int :=
  code.count kind.opener - code.count kind.closer

/-- The excesses of all that stands at the end of the code, the empty text included. -/
def Delimiter.suffixExcesses (kind : Delimiter) (code : Text) : Set Int :=
  kind.excess '' {suffix | suffix <:+ code}

theorem Delimiter.excess_append (kind : Delimiter) (front back : Text) :
    kind.excess (front ++ back) = kind.excess front + kind.excess back := by
  simp only [excess, List.count_append]
  omega

/-- One more character goes to the end of every suffix, and the empty one stays. -/
theorem isGreatest_suffixExcesses_concat {code : Text} {greatest : Int}
    (isGreatest : IsGreatest (kind.suffixExcesses code) greatest) (character : Char) :
    IsGreatest (kind.suffixExcesses (code ++ [character]))
      (max 0 (greatest + kind.excess [character])) := by
  obtain ⟨⟨longest, within, rfl⟩, bound⟩ := isGreatest
  constructor
  · rcases max_choice 0 (kind.excess longest + kind.excess [character]) with same | same
    · exact ⟨[], List.nil_suffix, same.symm⟩
    · exact ⟨longest ++ [character], List.suffix_concat_iff.mpr (.inr ⟨longest, rfl, within⟩),
        (kind.excess_append _ _).trans same.symm⟩
  · rintro _ ⟨suffix, ends, rfl⟩
    rcases List.suffix_concat_iff.mp ends with rfl | ⟨shorter, rfl, within⟩
    · exact le_max_left _ _
    · rw [Delimiter.excess_append]
      exact le_max_of_le_right (Int.add_le_add_right (bound ⟨shorter, within, rfl⟩) _)

/-- The count is the greatest excess of openers over closers at the end of the code. -/
theorem isGreatest_countBefore (kind : Delimiter) (text : Text) (length : Nat) :
    IsGreatest (kind.suffixExcesses (codeBefore text length)) (countBefore kind text length) := by
  induction length with
  | zero =>
    refine ⟨⟨[], List.nil_suffix, by cases kind <;> rfl⟩, ?_⟩
    rintro _ ⟨suffix, within, rfl⟩
    obtain rfl := List.suffix_nil.mp within
    exact Int.natCast_nonneg _
  | succ length inductionHypothesis =>
    rw [codeBefore_succ]
    cases code : codeAt? text length with
    | none =>
      rw [countBefore_succ_of_none code, Option.toList_none, List.append_nil]
      exact inductionHypothesis
    | some character =>
      have step : (countBefore kind text (length + 1) : Int) =
          max 0 (countBefore kind text length + kind.excess [character]) := by
        rw [countBefore_succ code, Delimiter.excess, List.count_singleton, List.count_singleton]
        simp only [beq_iff_eq]
        omega
      rw [step]
      exact isGreatest_suffixExcesses_concat inductionHypothesis character

end Excess

section Pairs

/-- The positions of those openers of a kind, among the first characters of a text, that are in no pair. -/
def freeOpeners (kind : Delimiter) (text : Text) (pairs : List (Nat × Nat)) (length : Nat) : List Nat :=
  (List.range length).filter fun position =>
    codeAt? text position = some kind.opener && pairs.all fun pair => pair.1 ≠ position

/-- The pairs of a kind among the first characters of a text: every closer takes the nearest opener before
it that is still free. -/
def pairsBefore (kind : Delimiter) (text : Text) : (length : Nat) → List (Nat × Nat)
  | 0 => []
  | position + 1 =>
    let pairs := pairsBefore kind text position
    if codeAt? text position = some kind.closer then
      match (freeOpeners kind text pairs position).getLast? with
      | some opener => pairs ++ [(opener, position)]
      | none => pairs
    else pairs

/-- The openers that are free where all closers before have taken theirs. -/
def openersBefore (kind : Delimiter) (text : Text) (length : Nat) : List Nat :=
  freeOpeners kind text (pairsBefore kind text length) length

/-- The openers of a kind that no closer of the text takes. -/
def unmatchedOpeners (kind : Delimiter) (text : Text) : List Nat :=
  openersBefore kind text text.length

theorem mem_openersBefore_iff {length : Nat} : position ∈ openersBefore kind text length ↔
    position < length ∧ codeAt? text position = some kind.opener ∧
      ∀ pair ∈ pairsBefore kind text length, pair.1 ≠ position := by
  simp [openersBefore, freeOpeners]

theorem pairsBefore_succ_of_closer (closes : codeAt? text position = some kind.closer) :
    pairsBefore kind text (position + 1) = pairsBefore kind text position ++
      ((openersBefore kind text position).getLast?.map (·, position)).toList := by
  rw [pairsBefore, if_pos closes, ← openersBefore]
  cases (openersBefore kind text position).getLast? <;> simp

theorem pairsBefore_succ_of_other (other : codeAt? text position ≠ some kind.closer) :
    pairsBefore kind text (position + 1) = pairsBefore kind text position :=
  if_neg other

/-- The pairs are the closers, each with the last of the openers that are free before it. -/
theorem mem_pairsBefore_iff {length : Nat} {pair : Nat × Nat} : pair ∈ pairsBefore kind text length ↔
    pair.2 < length ∧ codeAt? text pair.2 = some kind.closer ∧
      (openersBefore kind text pair.2).getLast? = some pair.1 := by
  obtain ⟨opener, closer⟩ := pair
  induction length with
  | zero => simp [pairsBefore]
  | succ position inductionHypothesis =>
    rw [Nat.lt_succ_iff_lt_or_eq]
    by_cases closes : codeAt? text position = some kind.closer
    · rw [pairsBefore_succ_of_closer closes, List.mem_append, inductionHypothesis]
      constructor
      · rintro (⟨less, takes⟩ | last)
        · exact ⟨.inl less, takes⟩
        · obtain ⟨_, found, same⟩ := Option.map_eq_some_iff.mp (Option.mem_toList.mp last)
          cases same
          exact ⟨.inr rfl, closes, found⟩
      · rintro ⟨less | rfl, takes⟩
        · exact .inl ⟨less, takes⟩
        · exact .inr (by simp [takes.2])
    · rw [pairsBefore_succ_of_other closes, inductionHypothesis]
      refine ⟨fun ⟨less, takes⟩ => ⟨.inl less, takes⟩, ?_⟩
      rintro ⟨less | rfl, takes⟩
      · exact ⟨less, takes⟩
      · exact absurd takes.1 closes

/-- In every pair, the opener stands before the closer. -/
theorem lt_of_mem_pairsBefore {length : Nat} {pair : Nat × Nat}
    (member : pair ∈ pairsBefore kind text length) : pair.1 < pair.2 :=
  (mem_openersBefore_iff.mp (List.mem_of_getLast? (mem_pairsBefore_iff.mp member).2.2)).1

theorem freeOpeners_succ (kind : Delimiter) (text : Text) (pairs : List (Nat × Nat)) (position : Nat) :
    freeOpeners kind text pairs (position + 1) = freeOpeners kind text pairs position ++
      if codeAt? text position = some kind.opener ∧ ∀ pair ∈ pairs, pair.1 ≠ position then [position]
      else [] := by
  rw [freeOpeners, List.range_succ, List.filter_append, freeOpeners]
  simp only [List.filter_cons, List.filter_nil, Bool.and_eq_true, decide_eq_true_eq, List.all_eq_true]

/-- An opener is free at first. -/
theorem openersBefore_succ_of_opener (opens : codeAt? text position = some kind.opener) :
    openersBefore kind text (position + 1) = openersBefore kind text position ++ [position] := by
  have noCloser : codeAt? text position ≠ some kind.closer := by
    simp [opens, kind.opener_ne_closer]
  have free : ∀ pair ∈ pairsBefore kind text position, pair.1 ≠ position := fun pair member =>
    ((lt_of_mem_pairsBefore member).trans (mem_pairsBefore_iff.mp member).1).ne
  rw [openersBefore, pairsBefore_succ_of_other noCloser, freeOpeners_succ, if_pos ⟨opens, free⟩,
    openersBefore]

/-- A closer takes the last of the free openers, if there is one. -/
theorem openersBefore_succ_of_closer (closes : codeAt? text position = some kind.closer) :
    openersBefore kind text (position + 1) = (openersBefore kind text position).dropLast := by
  have noOpener : codeAt? text position ≠ some kind.opener := by
    simp [closes, kind.opener_ne_closer.symm]
  have unchanged : ∀ pairs, freeOpeners kind text pairs (position + 1) =
      freeOpeners kind text pairs position := fun pairs => by simp [freeOpeners_succ, noOpener]
  rw [openersBefore, unchanged, pairsBefore_succ_of_closer closes]
  rcases List.eq_nil_or_concat' (openersBefore kind text position) with none | ⟨front, last, openers⟩
  · rw [none]
    simpa [openersBefore] using none
  · -- No position is listed twice, so the last one is the only one that is taken.
    have distinct : (openersBefore kind text position).Nodup := List.nodup_range.filter _
    have taken : freeOpeners kind text (pairsBefore kind text position ++ [(last, position)]) position =
        (openersBefore kind text position).filter fun opener => last ≠ opener := by
      simp [freeOpeners, openersBefore, List.filter_filter, Bool.and_comm, Bool.and_left_comm]
    rw [openers] at distinct taken ⊢
    have others : ∀ opener ∈ front, last ≠ opener := fun opener member =>
      ((List.nodup_append.mp distinct).2.2 opener member last (by simp)).symm
    rw [List.getLast?_concat, Option.map_some, Option.toList_some, taken, List.dropLast_concat,
      List.filter_append, List.filter_eq_self.mpr (by simpa using others)]
    simp

/-- All else leaves the free openers as they are. -/
theorem openersBefore_succ_of_other (noOpener : codeAt? text position ≠ some kind.opener)
    (noCloser : codeAt? text position ≠ some kind.closer) :
    openersBefore kind text (position + 1) = openersBefore kind text position := by
  simp [openersBefore, pairsBefore_succ_of_other noCloser, freeOpeners_succ, noOpener]

/-- As many openers are free as groups are open. -/
theorem length_openersBefore (kind : Delimiter) (text : Text) (length : Nat) :
    (openersBefore kind text length).length = countBefore kind text length := by
  induction length with
  | zero => cases kind <;> rfl
  | succ position inductionHypothesis =>
    cases code : codeAt? text position with
    | none =>
      rw [openersBefore_succ_of_other (by simp [code]) (by simp [code]), countBefore_succ_of_none code,
        inductionHypothesis]
    | some character =>
      rw [countBefore_succ code, ← inductionHypothesis]
      by_cases opens : character = kind.opener
      · rw [openersBefore_succ_of_opener (by rw [code, opens])]
        simp [opens, kind.opener_ne_closer]
      · by_cases closes : character = kind.closer
        · rw [openersBefore_succ_of_closer (by rw [code, closes])]
          simp [closes, kind.opener_ne_closer.symm]
        · rw [openersBefore_succ_of_other (by simp [code, opens]) (by simp [code, closes])]
          simp [opens, closes]

end Pairs

section Surplus

/-- A closer that takes no opener. -/
def IsSurplusCloser (text : Text) (position : Nat) : Prop :=
  ∃ kind : Delimiter, codeAt? text position = some kind.closer ∧
    ∀ pair ∈ pairsBefore kind text text.length, pair.2 ≠ position

/-- What is left of the first characters of a text when some positions are dropped. -/
def keptBefore (text : Text) (dropped : Nat → Bool) (length : Nat) : Text :=
  (List.range length).filterMap fun position => if dropped position then none else text[position]?

/-- The text without the characters at some positions. -/
def Text.without (text : Text) (dropped : Nat → Bool) : Text :=
  keptBefore text dropped text.length

theorem keptBefore_succ (text : Text) (dropped : Nat → Bool) (position : Nat) :
    keptBefore text dropped (position + 1) = keptBefore text dropped position ++
      (if dropped position then none else text[position]?).toList :=
  filterMap_range_succ _ position

/-- A closer takes no opener exactly if no group of its kind is open before it. -/
theorem isSurplusCloser_iff : IsSurplusCloser text position ↔
    ∃ kind : Delimiter, codeAt? text position = some kind.closer ∧ countBefore kind text position = 0 := by
  refine exists_congr fun kind => and_congr_right fun closes => ?_
  have inText : position < text.length :=
    (List.getElem?_eq_some_iff.mp (codeAt?_eq_some_iff.mp closes).2.1).1
  rw [← length_openersBefore, List.length_eq_zero_iff, ← List.getLast?_eq_none_iff,
    Option.eq_none_iff_forall_ne_some]
  constructor
  · intro unpaired opener last
    exact unpaired (opener, position) (mem_pairsBefore_iff.mpr ⟨inText, closes, last⟩) rfl
  · rintro none ⟨opener, _⟩ member rfl
    exact none opener (mem_pairsBefore_iff.mp member).2.2

/-- A closer that meets no group of its kind is passed over. -/
theorem Scanner.Within.feed_closer {inner outer : Scanner} (within : Within {} inner outer)
    (outside : outer.inString = false) (unopened : outer.nesting.count kind = 0) :
    Within {} inner (outer.feed kind.closer) := by
  obtain ⟨outsideBehind, nesting⟩ := Scanner.feed_closer outside kind
  refine ⟨.of_not_isOpen (within.inString_eq.trans outside) outsideBehind, ?_⟩
  rw [nesting, ← within.nesting]
  refine Nesting.ext_count fun other => ?_
  rw [Nesting.count_leave]
  split
  · rename_i same
    rw [← same, unopened]
  · rfl

/-- Without closers that take no opener the text is scanned as with them. -/
theorem within_keptBefore {dropped : Nat → Bool}
    (surplus : ∀ position, dropped position = true → IsSurplusCloser text position) (length : Nat) :
    Scanner.Within {} (Scanner.start.scan (keptBefore text dropped length))
      (Scanner.start.scan (text.take length)) := by
  induction length with
  | zero => exact ⟨.of_not_isOpen rfl rfl, rfl⟩
  | succ position inductionHypothesis =>
    rw [keptBefore_succ]
    cases drop : dropped position with
    | true =>
      obtain ⟨kind, closes, unopened⟩ := isSurplusCloser_iff.mp (surplus position drop)
      obtain ⟨outside, found, -⟩ := codeAt?_eq_some_iff.mp closes
      rw [if_pos rfl, Option.toList_none, List.append_nil, scan_take_succ found]
      exact inductionHypothesis.feed_closer outside unopened
    | false =>
      rw [if_neg Bool.false_ne_true]
      cases found : text[position]? with
      | none =>
        rw [take_succ_of_none found, Option.toList_none, List.append_nil]
        exact inductionHypothesis
      | some character =>
        rw [scan_take_succ found, Option.toList_some, Scanner.scan_append]
        exact inductionHypothesis.feed (.inr rfl)

end Surplus

/-- The count of a kind after a text is the greatest excess of openers at the end of its code, the number of
openers that no closer takes, and the count after the text without closers that take no opener. -/
theorem count_of_code (kind : Delimiter) (text : Text) :
    IsGreatest (kind.suffixExcesses (codeOf text)) ((Scanner.start.scan text).nesting.count kind) ∧
      0 ≤ ((Scanner.start.scan text).nesting.count kind : Int) ∧
      (unmatchedOpeners kind text).length = (Scanner.start.scan text).nesting.count kind ∧
      ∀ dropped : Nat → Bool, (∀ position, dropped position = true → IsSurplusCloser text position) →
        (Scanner.start.scan (text.without dropped)).nesting.count kind =
          (Scanner.start.scan text).nesting.count kind := by
  have whole : countBefore kind text text.length = (Scanner.start.scan text).nesting.count kind := by
    rw [countBefore, List.take_length]
  rw [← whole]
  refine ⟨isGreatest_countBefore kind text text.length, Int.natCast_nonneg _,
    length_openersBefore kind text text.length, fun dropped surplus => ?_⟩
  have within := within_keptBefore surplus text.length
  rw [countBefore, within.nesting, Nesting.count_plus, Text.without]
  cases kind <;> simp [Nesting.count]

/-- Closers that take no opener at the beginning and behind a literal, groups that overlap, and delimiters
in a literal that holds its own mark. -/
def unbalancedText : Text :=
  ")([)')\\'('])(()".toList

theorem count_of_code_unbalanced :
    (∀ position, [0, 11].contains position = true → IsSurplusCloser unbalancedText position) ∧
      IsGreatest (Delimiter.paren.suffixExcesses (codeOf unbalancedText))
        ((Scanner.start.scan unbalancedText).nesting.count .paren) ∧
      (unmatchedOpeners .paren unbalancedText).length =
        (Scanner.start.scan unbalancedText).nesting.count .paren ∧
      (Scanner.start.scan (unbalancedText.without [0, 11].contains)).nesting.count .paren =
        (Scanner.start.scan unbalancedText).nesting.count .paren ∧
      codeOf unbalancedText = ")([)])(()".toList ∧ unmatchedOpeners .paren unbalancedText = [12] ∧
      unbalancedText.without [0, 11].contains = "([)')\\'('](()".toList := by
  have surplus : ∀ position, [0, 11].contains position = true →
      IsSurplusCloser unbalancedText position := by
    intro position dropped
    rw [List.contains_iff_mem] at dropped
    simp only [List.mem_cons, List.not_mem_nil, or_false] at dropped
    rcases dropped with rfl | rfl
    · exact ⟨.paren, by decide, by decide⟩
    · exact ⟨.paren, by decide, by decide⟩
  obtain ⟨greatest, -, unmatched, deleted⟩ := count_of_code .paren unbalancedText
  exact ⟨surplus, greatest, unmatched, deleted _ surplus, by decide, by decide, by decide⟩

end RouteCatalog
