import RouteCatalog.Proofs.Sample.Fuel
import RouteCatalog.Proofs.Sample.Requests

/-!
# The two notations of an array

An array is written in words, `Array<T>`, or with brackets behind a group, `(T)[]`. The group is taken as a
whole (`sampleValue_arrayInBrackets`), but the angle brackets are no delimiters: where `T` is split at bars,
the array in words is a union of its pieces and asks for one of them (`requests_arrayInWords_ne`). The
notations agree exactly if that is not so: `arrayNotationsAgree_iff`.
-/

namespace RouteCatalog

open Sampling

/-- The array of a type in words. -/
def arrayInWords (item : Text) : Text :=
  arrayOpening false ++ (item ++ ['>'])

/-- The array of a type as a group with brackets behind it. -/
def arrayInBrackets (item : Text) : Text :=
  '(' :: (item ++ [')']) ++ ['[', ']']

/-- Two values of a type, the second after the first. -/
def samplePair {source : RandomSource} (now : Instant) (item : Text) : Sampling source Value := do
  let first ← sampleValue now item
  let second ← sampleValue now item
  return .list [first, second]

/-- Whichever way an array is written, it is a list of two values of its item type, the second sampled
with what is left after the first. -/
structure ArrayNotationsAgree {source : RandomSource} (now : Instant) (sampler : Sampler source)
    (item : Text) : Prop where
  words : (sampleValue now (arrayInWords item)).runOn sampler = (samplePair now item).runOn sampler
  brackets : (sampleValue now (arrayInBrackets item)).runOn sampler = (samplePair now item).runOn sampler

section Agreement

variable {source : RandomSource} {now : Instant} {item : Text}

/-- An array that is no union gives two values of its item type. -/
theorem sampleValue_of_arrayItem? {text : Text} (trimmed : IsTrimmed text)
    (whole : splitTopLevel (· == '|') text = [text]) (found : arrayItem? text = some item) :
    (sampleValue now text : Sampling source Value) =
      sampleWithin now text.length item >>= fun first =>
        sampleWithin now text.length item >>= fun second => pure (.list [first, second]) := by
  rw [sampleValue, sampleWithin_of_single trimmed (unionBranches_of_whole trimmed whole), found]

/-- Brackets behind a group of a closed type make an array of the type. -/
theorem sampleValue_arrayInBrackets (closed : isClosed item = true) :
    (sampleValue now (arrayInBrackets item) : Sampling source Value) = samplePair now item := by
  have trimmed : IsTrimmed (arrayInBrackets item) := by
    have shape : arrayInBrackets item = '(' :: (item ++ [')', '['] ++ [']']) := by
      simp [arrayInBrackets]
    rw [shape]
    exact .of_ends (by decide) (by decide)
  have group : IsPart (· == '|') ('(' :: (item ++ [')'])) := .group separatesParts_bar .paren closed
  have whole : splitTopLevel (· == '|') (arrayInBrackets item) = [arrayInBrackets item] :=
    whole_append_of_not_separator group.whole (by decide)
  have length : (arrayInBrackets item).length = item.length + 3 + 1 := by simp [arrayInBrackets]
  rw [sampleValue_of_arrayItem? trimmed whole (arrayItem?_brackets _), length]
  simp only [sampleWithin_group closed]
  rw [sampleWithin_eq_sampleValue (by omega)]
  rfl

/-- A type that is not split at bars is the item type of its array in words. -/
theorem sampleValue_arrayInWords (whole : splitTopLevel (· == '|') item = [item]) :
    (sampleValue now (arrayInWords item) : Sampling source Value) = samplePair now item := by
  have trimmed : IsTrimmed (arrayInWords item) := by
    have shape : arrayInWords item = 'A' :: ("rray<".toList ++ item ++ ['>']) := by
      simp [arrayInWords, arrayOpening]
    rw [shape]
    exact .of_ends (by decide) (by decide)
  have opening : IsPart (· == '|') (arrayOpening false) := .of_quiet separatesParts_bar (by decide)
  have entire : splitTopLevel (· == '|') (arrayInWords item) = [arrayInWords item] :=
    whole_append opening.closed opening.whole (whole_append_of_not_separator whole (by decide))
  have longer : item.length < (arrayInWords item).length := by
    simp [arrayInWords, arrayOpening]
    omega
  rw [sampleValue_of_arrayItem? trimmed entire (arrayItem?_generic false item),
    sampleWithin_eq_sampleValue longer]
  rfl

end Agreement

section Disagreement

variable {source : RandomSource} {now : Instant} {item first last : Text} {middle : List Text}

/-- The branches of an array in words of a type that is split at bars: the first has the opening of the
array, and the last its end. -/
theorem unionBranches_arrayInWords (found : splitTopLevel (· == '|') item = first :: (middle ++ [last])) :
    ∃ (gap behind : Text), unionBranches (arrayInWords item) =
      (arrayOpening false ++ (gap ++ first.trim)) ::
        (branchesOf middle ++ [last.trim ++ (behind ++ ['>'])]) := by
  have opening : IsPart (· == '|') (arrayOpening false) := .of_quiet separatesParts_bar (by decide)
  obtain ⟨init, final, parts, longer⟩ := exists_splitFrom_append (· == '|') .start item
  obtain ⟨rfl, rfl⟩ : init = first :: middle ∧ last = final := by
    have same : init ++ [final] = (first :: middle) ++ [last] := parts.symm.trans found
    exact ⟨(List.append_inj' same rfl).1, (List.singleton_inj.mp (List.append_inj' same rfl).2).symm⟩
  have split : splitTopLevel (· == '|') (arrayInWords item) =
      [arrayOpening false ++ first] ++ (middle ++ [last ++ ['>']]) := by
    rw [arrayInWords, splitTopLevel_append opening.closed opening.whole, splitTopLevel,
      longer _ (by decide)]
    rfl
  have begins : IsTrimmed (arrayOpening false) := .of_no_blank (by simp [arrayOpening]) (by decide)
  have ends : IsTrimmed ['>'] := .of_no_blank (by simp) (by decide)
  obtain ⟨gap, firstTrimmed⟩ := begins.exists_trim_append first
  obtain ⟨behind, lastTrimmed⟩ := ends.exists_append_trim last
  have firstNonempty : Text.trim (arrayOpening false ++ first) ≠ [] := by
    rw [firstTrimmed]
    simp [arrayOpening]
  have lastNonempty : Text.trim (last ++ ['>']) ≠ [] := by
    rw [lastTrimmed]
    simp
  refine ⟨gap, behind, ?_⟩
  rw [unionBranches_eq_branchesOf, split, branchesOf_append, branchesOf_append,
    branchesOf_single firstNonempty, branchesOf_single lastNonempty, firstTrimmed, lastTrimmed]
  rfl

/-- The candidates are the branches that stand for something, unless there is at most one. -/
theorem unionCandidates_eq_filter_or (branches : List Text) :
    unionCandidates branches = branches.filter (fun branch => !isNullish branch) ∨
      (unionCandidates branches).length ≤ 1 := by
  simp only [unionCandidates]
  split
  · exact .inr (List.length_take_le _ _)
  · exact .inl rfl

/-- The candidates of an array in words of a type that is split at bars: its first part behind the
opening, its last part with the closing bracket, and those between the two. -/
theorem unionCandidates_arrayInWords
    (found : splitTopLevel (· == '|') item = first :: (middle ++ [last])) : ∃ gap behind,
      unionCandidates (unionBranches (arrayInWords item)) =
        (arrayOpening false ++ (gap ++ first.trim)) ::
          ((branchesOf middle).filter (fun branch => !isNullish branch) ++
            [last.trim ++ (behind ++ ['>'])]) := by
  obtain ⟨gap, behind, branches⟩ := unionBranches_arrayInWords found
  have opens : isNullish (arrayOpening false ++ (gap ++ first.trim)) = false := by
    simp [isNullish, arrayOpening]
  have closes : isNullish (last.trim ++ (behind ++ ['>'])) = false := by
    have ends : ∀ word : Text, word.getLast? ≠ some '>' → last.trim ++ (behind ++ ['>']) ≠ word := by
      rintro word other rfl
      simp [← List.append_assoc] at other
    have undefined := ends "undefined".toList (by decide)
    have null := ends "null".toList (by decide)
    rw [isNullish, Bool.or_eq_false_iff]
    exact ⟨beq_eq_false_iff_ne.mpr undefined, beq_eq_false_iff_ne.mpr null⟩
  exact ⟨gap, behind, by simp [unionCandidates, branches, opens, closes]⟩

/-- One part is a branch that stands for something, or gives none. -/
theorem filter_branchesOf_single (part : Text) :
    (branchesOf [part]).filter (fun branch => !isNullish branch) = [] ∨
      (branchesOf [part]).filter (fun branch => !isNullish branch) = [part.trim] := by
  by_cases blank : part.trim = []
  · exact .inl (by rw [branchesOf_blank blank]; rfl)
  · rw [branchesOf_single blank]
    cases nullish : isNullish part.trim with
    | false => exact .inr (by simp [nullish])
    | true => exact .inl (by simp [nullish])

/-- An array in words of a type that is split at bars chooses from other candidates than the type. -/
theorem unionCandidates_arrayInWords_ne (cut : splitTopLevel (· == '|') item ≠ [item]) :
    unionCandidates (unionBranches (arrayInWords item)) ≠ unionCandidates (unionBranches item) := by
  obtain ⟨first, middle, last, found⟩ := exists_parts cut
  obtain ⟨gap, behind, ofArray⟩ := unionCandidates_arrayInWords found
  have ofItem : unionBranches item = branchesOf [first] ++ (branchesOf middle ++ branchesOf [last]) := by
    rw [unionBranches_eq_branchesOf, found, ← branchesOf_append, ← branchesOf_append]
    rfl
  have lastOne : ((branchesOf [last]).filter fun branch => !isNullish branch).length ≤ 1 :=
    (List.length_filter_le _ _).trans (length_branchesOf_single_le last)
  intro same
  rw [ofArray] at same
  have lengths := congrArg List.length same
  rcases unionCandidates_eq_filter_or (unionBranches item) with standing | one
  · rw [standing, ofItem, List.filter_append, List.filter_append] at same lengths
    simp only [List.length_cons, List.length_append, List.length_nil] at lengths
    -- There are as many candidates only if the first part is one, but then it is not the opened one.
    rcases filter_branchesOf_single first with none | only
    · rw [none, List.length_nil] at lengths
      omega
    · rw [only] at same
      have longer := congrArg List.length (List.cons.inj same).1
      simp [arrayOpening] at longer
      omega
  · simp only [List.length_cons, List.length_append, List.length_nil] at lengths
    omega

/-- A pair of a type that is split at bars asks for one of the candidates of the type before everything
else, or nothing at all. -/
theorem requests_samplePair (cut : splitTopLevel (· == '|') item ≠ [item]) (now : Instant)
    (sampler : Sampler source) :
    .choice (unionCandidates (unionBranches item)) :: sampler.requests <:+
        ((samplePair now item).runOn sampler).2.requests ∨
      ((samplePair now item).runOn sampler).2.requests = sampler.requests := by
  by_cases few : (unionBranches item).length ≤ 1
  · have idle : (sampleValue now item : Sampling source Value) = pure (unreadValue item) :=
      sampleValue_of_few cut few
    have pair : (samplePair now item : Sampling source Value) =
        pure (.list [unreadValue item, unreadValue item]) := by
      simp only [samplePair, idle, pure_bind]
    exact .inr (by rw [pair]; rfl)
  · have several : 1 < (unionBranches item.trim).length := by
      rw [unionBranches_trim]
      omega
    have first := choice_suffix_sampleValue several now sampler
    rw [unionBranches_trim] at first
    refine .inl (first.trans (requests_suffix_bind (fun value => ?_) sampler))
    exact (extends_sampleWithin now _ item).bind fun _ => .pure _

/-- An array in words of a type that is split at bars does not ask what a pair of the type asks. -/
theorem requests_arrayInWords_ne (cut : splitTopLevel (· == '|') item ≠ [item]) (now : Instant)
    (sampler : Sampler source) :
    ((sampleValue now (arrayInWords item)).runOn sampler).2.requests ≠
      ((samplePair now item).runOn sampler).2.requests := by
  intro same
  obtain ⟨first, middle, last, found⟩ := exists_parts cut
  obtain ⟨gap, behind, branches⟩ := unionBranches_arrayInWords found
  have several : 1 < (unionBranches (arrayInWords item).trim).length := by
    rw [unionBranches_trim, branches]
    simp
  have asked := choice_suffix_sampleValue several now sampler
  rw [unionBranches_trim, same] at asked
  -- The first new request is of candidates on both sides, and they are not the same.
  rcases requests_samplePair cut now sampler with other | idle
  · have equal := (List.suffix_of_suffix_length_le asked other (by simp)).eq_of_length (by simp)
    simp only [List.cons.injEq, RandomRequest.choice.injEq, and_true] at equal
    exact unionCandidates_arrayInWords_ne cut equal
  · have longer := asked.length_le
    rw [idle, List.length_cons] at longer
    omega

end Disagreement

/-- The two notations of an array of a closed type agree exactly if the type is not split at bars. -/
theorem arrayNotationsAgree_iff {source : RandomSource} {item : Text} (closed : isClosed item = true)
    (now : Instant) (sampler : Sampler source) :
    ArrayNotationsAgree now sampler item ↔ splitTopLevel (· == '|') item = [item] := by
  constructor
  · intro agree
    by_contra cut
    exact requests_arrayInWords_ne cut now sampler
      (congrArg (fun outcome : _ × Sampler source => outcome.2.requests) agree.words)
  · intro whole
    exact ⟨by rw [sampleValue_arrayInWords whole], by rw [sampleValue_arrayInBrackets closed]⟩

/-- They agree for an object type with unions inside its braces and in a literal. -/
theorem arrayNotationsAgree_object :
    isClosed "\x7b a: 'x|y' | null \x7d".toList = true ∧
      ArrayNotationsAgree ⟨2024, 1, 1, 0, 0, 0, 0⟩ (⟨⟨#[3], 0⟩, []⟩ : Sampler Script.source)
        "\x7b a: 'x|y' | null \x7d".toList :=
  ⟨by decide, (arrayNotationsAgree_iff (by decide) _ _).mpr (by decide)⟩

/-- The array of a union in words is a union of its two pieces. -/
theorem not_arrayNotationsAgree_union :
    isClosed "string | number".toList = true ∧
      ((sampleValue ⟨2024, 1, 1, 0, 0, 0, 0⟩ "Array<string | number>".toList).runOn
        (⟨⟨#[0], 0⟩, []⟩ : Sampler Script.source)).2.requests =
          [.choice ["Array<string".toList, "number>".toList]] ∧
      ¬ArrayNotationsAgree ⟨2024, 1, 1, 0, 0, 0, 0⟩ (⟨⟨#[0], 0⟩, []⟩ : Sampler Script.source)
        "string | number".toList := by
  have asked : ((sampleValue ⟨2024, 1, 1, 0, 0, 0, 0⟩ "Array<string | number>".toList).runOn
      (⟨⟨#[0], 0⟩, []⟩ : Sampler Script.source)).2.requests =
        [.choice ["Array<string".toList, "number>".toList]] := by decide
  have pair : ((samplePair ⟨2024, 1, 1, 0, 0, 0, 0⟩ "string | number".toList).runOn
      (⟨⟨#[0], 0⟩, []⟩ : Sampler Script.source)).2.requests =
        [.between 0 9999, .choice ["string".toList, "number".toList], .between 0 9999,
          .choice ["string".toList, "number".toList]] := by decide
  refine ⟨by decide, asked, fun agree => ?_⟩
  have same := congrArg (fun outcome : _ × Sampler Script.source => outcome.2.requests) agree.words
  have words : arrayInWords "string | number".toList = "Array<string | number>".toList := by decide
  rw [words] at same
  rw [asked, pair] at same
  cases same

end RouteCatalog
