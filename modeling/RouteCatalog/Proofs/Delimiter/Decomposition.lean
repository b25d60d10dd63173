import RouteCatalog.Proofs.Rows

/-!
# The decomposition of a text at its top level

A text is cut exactly at the separators before which a fresh scan is at top level
(`mem_cutPlaces_splitFrom_iff`). The parts with those separators between them are the text
(`exists_interleave_splitFrom`), and a text and its cuts determine the parts (`eq_of_cutPlaces`); a text
without cuts is its only part (`splitTopLevel_eq_singleton_iff`). The scan goes on over the separators and
is never begun anew; since it is at top level behind each of them, every part is split as it would be alone
(`whole_of_mem_splitTopLevel`).
-/

namespace RouteCatalog

/-- The parts with a character between any two neighbours. -/
def interleave : List Text → Text → Text
  | part :: parts, separator :: separators => part ++ separator :: interleave parts separators
  | parts, _ => parts.flatten

/-- The places of the characters that stand between the parts of a text. -/
def cutPlaces : List Text → List Nat
  | part :: next :: parts => part.length :: (cutPlaces (next :: parts)).map (part.length + 1 + ·)
  | _ => []

/-- There is a separator at the place, and the scan of all that is before it ends at top level. -/
def IsCut (isSeparator : Char → Bool) (scanner : Scanner) (text : Text) (place : Nat) : Prop :=
  ∃ separator, text[place]? = some separator ∧ isSeparator separator = true ∧
    (scanner.scan (text.take place)).atTopLevel = true

/-- The parts make up the text, with a separator between any two of them, and it is cut wherever a
separator stands at top level. -/
structure IsDecomposition (isSeparator : Char → Bool) (text : Text) (parts : List Text) : Prop where
  interleaved : ∃ separators : Text, parts.length = separators.length + 1 ∧
    (∀ separator ∈ separators, isSeparator separator = true) ∧ interleave parts separators = text
  cuts : ∀ place, place ∈ cutPlaces parts ↔ IsCut isSeparator .start text place

section Cuts

variable {isSeparator : Char → Bool} {scanner : Scanner} {text : Text} {parts : List Text}

/-- An empty part in front is a cut before all that follows. -/
theorem cutPlaces_nil_cons (nonempty : parts ≠ []) :
    cutPlaces ([] :: parts) = 0 :: (cutPlaces parts).map (· + 1) := by
  obtain ⟨first, others, rfl⟩ := List.exists_cons_of_ne_nil nonempty
  simp [cutPlaces, Nat.add_comm]

/-- One more character in front moves every cut on. -/
theorem cutPlaces_modifyHead (character : Char) :
    cutPlaces (parts.modifyHead (character :: ·)) = (cutPlaces parts).map (· + 1) := by
  match parts with
  | [] | [_] => rfl
  | first :: second :: others =>
    have moved : (first.length + 1 + 1 + ·) = (· + 1) ∘ (first.length + 1 + ·) := by
      funext place
      simp only [Function.comp_apply]
      omega
    simp [cutPlaces, moved]

/-- The first character is a cut if it is a separator and the scan begins at top level. -/
theorem isCut_zero_iff {character : Char} : IsCut isSeparator scanner (character :: text) 0 ↔
    isSeparator character = true ∧ scanner.atTopLevel = true := by
  simp [IsCut]

/-- A later character is a cut if it is one for the scan behind the first. -/
theorem isCut_succ_iff {character : Char} {place : Nat} :
    IsCut isSeparator scanner (character :: text) (place + 1) ↔
      IsCut isSeparator (scanner.feed character) text place := by
  simp [IsCut]

/-- A text is cut exactly at the separators at top level. -/
theorem mem_cutPlaces_splitFrom_iff {place : Nat} :
    place ∈ cutPlaces (splitFrom isSeparator scanner text) ↔
      IsCut isSeparator scanner text place := by
  induction text generalizing scanner place with
  | nil => simp [splitFrom, cutPlaces, IsCut]
  | cons character rest inductionHypothesis =>
    have nonempty := splitFrom_ne_nil isSeparator (scanner.feed character) rest
    rw [splitFrom]
    split
    · rename_i cut
      rw [cutPlaces_nil_cons nonempty]
      cases place with
      | zero => simpa [isCut_zero_iff] using cut
      | succ place => simp [isCut_succ_iff, inductionHypothesis]
    · rename_i inside
      rw [cutPlaces_modifyHead]
      cases place with
      | zero => simpa [isCut_zero_iff] using inside
      | succ place => simp [isCut_succ_iff, inductionHypothesis]

/-- The parts with the separators at which they were cut between them are the text. -/
theorem exists_interleave_splitFrom (isSeparator : Char → Bool) (scanner : Scanner) (text : Text) :
    ∃ separators : Text,
      (splitFrom isSeparator scanner text).length = separators.length + 1 ∧
      (∀ separator ∈ separators, isSeparator separator = true) ∧
      interleave (splitFrom isSeparator scanner text) separators = text := by
  induction text generalizing scanner with
  | nil => exact ⟨[], rfl, by simp, rfl⟩
  | cons character rest inductionHypothesis =>
    obtain ⟨separators, lengths, separates, joined⟩ := inductionHypothesis (scanner.feed character)
    obtain ⟨first, others, found⟩ :=
      List.exists_cons_of_ne_nil (splitFrom_ne_nil isSeparator (scanner.feed character) rest)
    rw [found] at lengths joined
    rw [splitFrom, found]
    split
    · rename_i cut
      have separator : isSeparator character = true := (Bool.and_eq_true_iff.mp cut).1
      refine ⟨character :: separators, by simpa using lengths, ?_, by simp [interleave, joined]⟩
      exact List.forall_mem_cons.mpr ⟨separator, separates⟩
    · refine ⟨separators, by simpa using lengths, separates, ?_⟩
      cases separators <;> simpa [interleave] using joined

end Cuts

section Uniqueness

/-- The first cut is behind the first part, and the next ones are behind it. -/
theorem le_of_mem_cutPlaces {part next : Text} {parts : List Text} {place : Nat}
    (member : place ∈ cutPlaces (part :: next :: parts)) : part.length ≤ place := by
  simp only [cutPlaces, List.mem_cons, List.mem_map] at member
  rcases member with rfl | ⟨later, -, rfl⟩ <;> omega

/-- A text and the places of its cuts determine the parts. -/
theorem eq_of_cutPlaces {parts others : List Text} {separators otherSeparators : Text}
    (lengths : parts.length = separators.length + 1)
    (otherLengths : others.length = otherSeparators.length + 1)
    (texts : interleave parts separators = interleave others otherSeparators)
    (places : ∀ place, place ∈ cutPlaces parts ↔ place ∈ cutPlaces others) : parts = others := by
  induction parts generalizing others separators otherSeparators with
  | nil => simp at lengths
  | cons part rest inductionHypothesis =>
    obtain ⟨other, otherRest, rfl⟩ := List.exists_cons_of_length_eq_add_one otherLengths
    cases separators with
    | nil =>
      obtain rfl : rest = [] := by simpa using lengths
      cases otherSeparators with
      | nil =>
        obtain rfl : otherRest = [] := by simpa using otherLengths
        simpa [interleave] using texts
      | cons separator otherSeparators =>
        obtain ⟨next, following, rfl⟩ := List.exists_cons_of_length_eq_add_one
          (by simpa using otherLengths : otherRest.length = otherSeparators.length + 1)
        exact absurd ((places other.length).mpr (by simp [cutPlaces])) (by simp [cutPlaces])
    | cons separator separators =>
      obtain ⟨next, following, rfl⟩ := List.exists_cons_of_length_eq_add_one
        (by simpa using lengths : rest.length = separators.length + 1)
      cases otherSeparators with
      | nil =>
        obtain rfl : otherRest = [] := by simpa using otherLengths
        exact absurd ((places part.length).mp (by simp [cutPlaces])) (by simp [cutPlaces])
      | cons otherSeparator otherSeparators =>
        obtain ⟨otherNext, otherFollowing, rfl⟩ := List.exists_cons_of_length_eq_add_one
          (by simpa using otherLengths : otherRest.length = otherSeparators.length + 1)
        -- The first cut is the least of them, so the first parts are of one length.
        have firstLength : part.length = other.length := by
          have here := le_of_mem_cutPlaces ((places part.length).mp (by simp [cutPlaces]))
          have there := le_of_mem_cutPlaces ((places other.length).mpr (by simp [cutPlaces]))
          omega
        obtain ⟨rfl, behind⟩ := List.append_inj texts firstLength
        obtain ⟨-, sameRest⟩ := List.cons.inj behind
        refine congrArg (part :: ·) (inductionHypothesis (by simpa using lengths)
          (by simpa using otherLengths) sameRest fun place => ?_)
        have moved := places (part.length + 1 + place)
        simpa [cutPlaces, Nat.add_assoc] using moved

/-- The parts of a text are its only decomposition. -/
theorem splitTopLevel_eq_iff_isDecomposition {isSeparator : Char → Bool} {text : Text}
    {parts : List Text} :
    splitTopLevel isSeparator text = parts ↔ IsDecomposition isSeparator text parts := by
  have split : IsDecomposition isSeparator text (splitTopLevel isSeparator text) :=
    ⟨exists_interleave_splitFrom isSeparator .start text, fun _ => mem_cutPlaces_splitFrom_iff⟩
  constructor
  · rintro rfl
    exact split
  · intro other
    obtain ⟨separators, lengths, -, joined⟩ := split.interleaved
    obtain ⟨otherSeparators, otherLengths, -, otherJoined⟩ := other.interleaved
    exact eq_of_cutPlaces lengths otherLengths (joined.trans otherJoined.symm)
      fun place => (split.cuts place).trans (other.cuts place).symm

/-- A text is not split exactly if no place of it is a cut. -/
theorem splitTopLevel_eq_singleton_iff {isSeparator : Char → Bool} {text : Text} :
    splitTopLevel isSeparator text = [text] ↔ ∀ place, ¬IsCut isSeparator .start text place := by
  rw [splitTopLevel_eq_iff_isDecomposition]
  constructor
  · intro alone place cut
    exact List.not_mem_nil ((alone.cuts place).mpr cut)
  · intro uncut
    refine ⟨⟨[], rfl, by simp, by simp [interleave]⟩, fun place => ?_⟩
    simpa [cutPlaces] using uncut place

end Uniqueness

section Separators

variable {isSeparator : Char → Bool}

/-- A part is not split again. -/
theorem whole_of_mem_splitTopLevel {part text : Text}
    (plain : ∀ character, isSeparator character = true → isPlain character = true)
    (member : part ∈ splitTopLevel isSeparator text) : splitTopLevel isSeparator part = [part] := by
  generalize found : splitTopLevel isSeparator text = parts at member
  induction parts generalizing text with
  | nil => cases member
  | cons first others inductionHypothesis =>
    obtain ⟨whole, shape⟩ := splitFrom_eq_cons found
    rcases List.mem_cons.mp member with rfl | further
    · exact whole
    · rcases shape with ⟨-, rfl⟩ | ⟨separator, rest, -, separates, top, rfl⟩
      · cases further
      · have behind : ((Scanner.start.scan first).feed separator).atTopLevel = true := by
          rw [Scanner.atTopLevel_feed_of_plain (plain separator separates), top]
        exact inductionHypothesis (splitFrom_of_atTopLevel behind).symm further

/-- Splitting is the one decomposition of a text at its separators at top level. Every part is a text
that is not split, and the parts of two texts with a separator between them are those of the one and then
those of the other, unless the first leaves a literal or a group open: then that separator is no cut. -/
theorem splitTopLevel_decomposes
    (plain : ∀ character, isSeparator character = true → isPlain character = true) :
    (∀ text parts, splitTopLevel isSeparator text = parts ↔
      IsDecomposition isSeparator text parts) ∧
    (∀ text, ∀ part ∈ splitTopLevel isSeparator text,
      splitTopLevel isSeparator part = [part]) ∧
    ∀ (front back : Text) (separator : Char), isSeparator separator = true →
      ((Scanner.start.scan front).atTopLevel = true →
        splitTopLevel isSeparator (front ++ separator :: back) =
          splitTopLevel isSeparator front ++ splitTopLevel isSeparator back) ∧
      ((Scanner.start.scan front).atTopLevel = false →
        front.length ∉ cutPlaces (splitTopLevel isSeparator (front ++ separator :: back))) := by
  refine ⟨fun text parts => splitTopLevel_eq_iff_isDecomposition,
    fun text part member => whole_of_mem_splitTopLevel plain member, ?_⟩
  intro front back separator separates
  constructor
  · intro top
    exact splitFrom_append_cons separates (plain separator separates) top back
  · intro nested cut
    obtain ⟨-, -, -, top⟩ := mem_cutPlaces_splitFrom_iff.mp cut
    rw [List.take_left, nested] at top
    cases top

/-- Rows with a separator in a group, one in a literal, a surplus closer and a literal that is left
open. -/
theorem splitTopLevel_decomposes_rows :
    (∀ character, isRowSeparator character = true → isPlain character = true) ∧
    IsDecomposition isRowSeparator "a: [b, 'c;'], )d; \"e,f".toList
      ["a: [b, 'c;']".toList, " )d".toList, " \"e,f".toList] ∧
    splitTopLevel isRowSeparator " \"e,f".toList = [" \"e,f".toList] ∧
    splitTopLevel isRowSeparator ("a: [b, 'c;']".toList ++ ',' :: " )d; \"e,f".toList) =
      splitTopLevel isRowSeparator "a: [b, 'c;']".toList ++
        splitTopLevel isRowSeparator " )d; \"e,f".toList ∧
    "a: [b".toList.length ∉ cutPlaces
      (splitTopLevel isRowSeparator ("a: [b".toList ++ ',' :: " 'c;'], )d; \"e,f".toList)) := by
  have plain : ∀ character, isRowSeparator character = true → isPlain character = true :=
    fun _ => isPlain_of_isRowSeparator
  obtain ⟨decomposes, parts, joins⟩ := splitTopLevel_decomposes plain
  refine ⟨plain, (decomposes _ _).mp (by decide),
    parts "a: [b, 'c;'], )d; \"e,f".toList _ (by decide), ?_, ?_⟩
  · exact (joins _ _ ',' (by decide)).1 (by decide)
  · exact (joins _ _ ',' (by decide)).2 (by decide)

end Separators

end RouteCatalog
