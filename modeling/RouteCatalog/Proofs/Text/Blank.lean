import Mathlib.Data.List.DropRight
import RouteCatalog.Text.Blank
import RouteCatalog.Text.Word

/-!
# Blanks, trimming and line ends

Blank characters at the ends of a text have no part in what trimming leaves. No blank character
belongs to a word. Unifying line ends turns blanks into blanks (`unifyLineEnds_of_blank`) and leaves
everything without carriage returns alone.
-/

namespace RouteCatalog

/-- The code points of the blank characters. -/
def blankCodes : List Nat :=
  [9, 10, 11, 12, 13, 0x1c, 0x1d, 0x1e, 0x1f, 0x20, 0x85, 0xa0, 0x1680, 0x2000, 0x2001, 0x2002,
    0x2003, 0x2004, 0x2005, 0x2006, 0x2007, 0x2008, 0x2009, 0x200a, 0x2028, 0x2029, 0x202f, 0x205f,
    0x3000]

theorem mem_blankCodes {character : Char} (blank : isBlank character = true) :
    character.toNat ∈ blankCodes := by
  simp only [isBlank, Bool.or_eq_true, Bool.and_eq_true, decide_eq_true_eq, beq_iff_eq] at blank
  simp only [blankCodes, List.mem_cons, List.not_mem_nil, or_false]
  omega

@[simp]
theorem isBlank_space : isBlank ' ' = true := by
  decide

@[simp]
theorem isBlank_lineFeed : isBlank '\n' = true := by
  decide

/-- No blank character belongs to a word. -/
theorem isWord_of_isBlank {character : Char} (blank : isBlank character = true) :
    isWord character = false := by
  have codes : ∀ code ∈ blankCodes, isWord (Char.ofNat code) = false := by decide +kernel
  have found := codes _ (mem_blankCodes blank)
  rwa [Char.ofNat_toNat] at found

namespace Text

variable {front back text gap : Text}

@[simp]
theorem isBlankText_append :
    (front ++ back).isBlankText = (front.isBlankText && back.isBlankText) := by
  simp [isBlankText]

/-- Leading blanks have no part in a text trimmed at its start. -/
theorem trimStart_append_of_blank (blank : gap.isBlankText = true) :
    (gap ++ text).trimStart = text.trimStart := by
  have dropped : gap.dropWhile isBlank = [] := trimStart_eq_nil_iff.mpr blank
  simp [trimStart, List.dropWhile_append, dropped]

/-- Trailing blanks have no part in a text trimmed at its end. -/
theorem trimEnd_append_of_blank (blank : gap.isBlankText = true) :
    (text ++ gap).trimEnd = text.trimEnd := by
  have reversed : Text.isBlankText gap.reverse = true := by
    simpa [isBlankText] using blank
  have dropped : trimStart (gap.reverse ++ text.reverse) = trimStart text.reverse :=
    trimStart_append_of_blank reversed
  simpa [trimEnd, trimStart] using dropped

/-- Blanks at both ends have no part in a trimmed text. -/
theorem trim_between (blankFront : front.isBlankText = true) (blankBack : back.isBlankText = true) :
    (front ++ text ++ back).trim = text.trim := by
  rw [trim, List.append_assoc, trimStart_append_of_blank blankFront]
  by_cases empty : text.isBlankText = true
  · rw [trimStart_append_of_blank empty, trim, trimStart_eq_nil_iff.mpr blankBack,
      trimStart_eq_nil_iff.mpr empty]
  · have kept : text.dropWhile isBlank ≠ [] := fun dropped =>
      empty (trimStart_eq_nil_iff.mp dropped)
    have front : (text ++ back).trimStart = text.trimStart ++ back := by
      simp [trimStart, List.dropWhile_append, kept]
    rw [front, trimEnd_append_of_blank blankBack, trim]

/-- Blanks before a text have no part in it when it is trimmed. -/
theorem trim_blank_append (blank : gap.isBlankText = true) (text : Text) :
    (gap ++ text).trim = text.trim := by
  rw [trim, trimStart_append_of_blank blank, trim]

/-- Nor have blanks behind it. -/
theorem trim_append_blank (blank : gap.isBlankText = true) (text : Text) :
    (text ++ gap).trim = text.trim := by
  have nothing : isBlankText [] = true := rfl
  exact trim_between nothing blank

/-- A text that begins and ends with other than blank characters is trimmed. -/
theorem trim_of_ends {first last : Char} {middle : Text} (firstMark : isBlank first = false)
    (lastMark : isBlank last = false) :
    trim (first :: (middle ++ [last])) = first :: (middle ++ [last]) := by
  have start : trimStart (first :: (middle ++ [last])) = first :: (middle ++ [last]) := by
    simp [trimStart, firstMark]
  rw [trim, start]
  have reversed : (first :: (middle ++ [last])).reverse = last :: (middle.reverse ++ [first]) := by
    simp
  simp [trimEnd, lastMark]

/-- A text without blanks is trimmed. -/
theorem trim_of_no_blank (noBlank : ∀ character ∈ text, isBlank character = false) :
    text.trim = text := by
  have kept : ∀ part : Text, (∀ character ∈ part, isBlank character = false) →
      part.trimStart = part := by
    intro part noBlank
    cases part with
    | nil => rfl
    | cons first rest => simp [trimStart, noBlank first (by simp)]
  have back : trimStart text.reverse = text.reverse := kept text.reverse (by simpa using noBlank)
  rw [trim, kept text noBlank, trimEnd, ← trimStart, back, List.reverse_reverse]

/-- A text begins with blanks and then with what is left at its start. -/
theorem exists_trimStart (text : Text) : ∃ front : Text, front.isBlankText = true ∧
    text = front ++ text.trimStart :=
  ⟨text.takeWhile isBlank, List.all_takeWhile, List.takeWhile_append_dropWhile.symm⟩

/-- A text ends with blanks behind what is left at its end. -/
theorem exists_trimEnd (text : Text) : ∃ gap : Text, gap.isBlankText = true ∧
    text = text.trimEnd ++ gap := by
  refine ⟨(text.reverse.takeWhile isBlank).reverse, ?_, ?_⟩
  · rw [isBlankText, List.all_reverse]
    exact List.all_takeWhile
  · rw [trimEnd, ← List.reverse_append, List.takeWhile_append_dropWhile, List.reverse_reverse]

/-- A text is what trimming leaves of it between blanks. -/
theorem exists_trimmed (text : Text) : ∃ front back : Text, front.isBlankText = true ∧
    back.isBlankText = true ∧ text = front ++ (text.trim ++ back) := by
  obtain ⟨front, frontBlank, begins⟩ := text.exists_trimStart
  obtain ⟨back, backBlank, ends⟩ := text.trimStart.exists_trimEnd
  exact ⟨front, back, frontBlank, backBlank, by rw [trim, ← ends]; exact begins⟩

theorem trim_isInfix (text : Text) : text.trim <:+: text := by
  obtain ⟨front, back, -, -, parts⟩ := text.exists_trimmed
  exact ⟨front, back, by rw [List.append_assoc]; exact parts.symm⟩

/-- Trimming leaves nothing to trim. -/
@[simp]
theorem trim_trim (text : Text) : text.trim.trim = text.trim := by
  obtain ⟨front, back, blankFront, blankBack, parts⟩ := text.exists_trimmed
  have between : trim (front ++ text.trim ++ back) = text.trim.trim :=
    trim_between blankFront blankBack
  rw [List.append_assoc, ← parts] at between
  exact between.symm

/-- What is left after the first characters of a class begins with none of it. -/
theorem not_of_dropWhile_eq_cons {inClass : Char → Bool} {first : Char} {rest : Text}
    (left : text.dropWhile inClass = first :: rest) : inClass first = false := by
  have again := List.dropWhile_idempotent inClass text
  rw [left, List.dropWhile_cons] at again
  split at again
  · have shorter := congrArg List.length again
    have bound := List.length_dropWhile_le inClass rest
    simp only [List.length_cons] at shorter
    omega
  · simpa using ‹¬inClass first = true›

/-- A text begins with the characters of a class that stand before one of another class. -/
theorem span_append {inClass : Char → Bool} (members : ∀ character ∈ front, inClass character = true)
    (ends : back.head?.any inClass = false) :
    (front ++ back).takeWhile inClass = front ∧ (front ++ back).dropWhile inClass = back := by
  rw [List.takeWhile_append_of_pos members, List.dropWhile_append_of_pos members]
  cases back with
  | nil => simp
  | cons first rest =>
    have stop : inClass first = false := by simpa using ends
    simp [stop]

/-- Behind blanks a class of other characters begins no sooner. -/
theorem head?_append_of_blank {inClass : Char → Bool}
    (apart : ∀ character, isBlank character = true → inClass character = false)
    (blank : gap.isBlankText = true) (ends : back.head?.any inClass = false) :
    (gap ++ back).head?.any inClass = false := by
  cases gap with
  | nil => exact ends
  | cons character rest =>
    simp only [isBlankText, List.all_cons, Bool.and_eq_true] at blank
    simpa using apart character blank.1

/-- What trimming leaves does not begin with a blank. -/
theorem not_blank_of_trim_eq_cons {first : Char} {rest : Text} (trimmed : text.trim = first :: rest) :
    isBlank first = false := by
  obtain ⟨back, -, parts⟩ := text.trimStart.exists_trimEnd
  rw [← trim, trimmed] at parts
  exact not_of_dropWhile_eq_cons parts

/-- What trimming leaves does not end with a blank. -/
theorem not_blank_of_trim_eq_concat {last : Char} {rest : Text}
    (trimmed : text.trim = rest ++ [last]) : isBlank last = false := by
  have reversed := congrArg List.reverse trimmed
  simp only [trim, trimEnd, List.reverse_reverse, List.reverse_append, List.reverse_singleton,
    List.singleton_append] at reversed
  exact not_of_dropWhile_eq_cons reversed

/-- A trimmed text does not begin with a blank. -/
theorem isBlank_of_trim_eq {first : Char} (trimmed : trim (first :: text) = first :: text) :
    isBlank first = false := by
  refine Bool.eq_false_iff.mpr fun blank => ?_
  have shorter : (trim (first :: text)).length ≤ text.length := by
    have start : trimStart (first :: text) = text.trimStart := by simp [trimStart, blank]
    rw [trim, start, trimEnd, List.length_reverse]
    exact Nat.le_trans (List.length_dropWhile_le _ _)
      (by simpa [trimStart] using List.length_dropWhile_le isBlank text)
  rw [trimmed, List.length_cons] at shorter
  omega

/-- Nothing is left to trim. -/
theorem trimStart_trimStart (text : Text) : text.trimStart.trimStart = text.trimStart :=
  List.dropWhile_idempotent isBlank text

/-- A text that begins with other than a blank has nothing to trim at its start. -/
theorem trimStart_cons_of_not_blank {character : Char} (mark : isBlank character = false) :
    trimStart (character :: text) = character :: text := by
  simp [trimStart, mark]

/-- A character that is no carriage return stays. -/
theorem unifyLineEnds_cons {character : Char} (other : character ≠ '\r') :
    unifyLineEnds (character :: text) = character :: unifyLineEnds text := by
  rw [unifyLineEnds.eq_4]
  · rintro rest rfl rfl
    exact other rfl
  · rintro rfl
    exact other rfl

/-- A text without carriage returns stays as it is. -/
theorem unifyLineEnds_append (absent : '\r' ∉ front) :
    unifyLineEnds (front ++ back) = front ++ unifyLineEnds back := by
  induction front with
  | nil => rfl
  | cons character rest inductionHypothesis =>
    rw [List.mem_cons, not_or] at absent
    rw [List.cons_append, unifyLineEnds_cons (Ne.symm absent.1), inductionHypothesis absent.2]
    rfl

/-- Only a carriage return at the beginning changes how a text begins. -/
theorem head?_unifyLineEnds :
    (unifyLineEnds text).head? = text.head?.map fun first => if first = '\r' then '\n' else first := by
  cases text with
  | nil => rfl
  | cons first rest =>
    by_cases carriage : first = '\r'
    · subst carriage
      fun_cases unifyLineEnds ('\r' :: rest) <;> simp_all
    · simp [unifyLineEnds_cons carriage, carriage]

/-- Blanks stay blanks. -/
theorem unifyLineEnds_of_blank (blank : gap.isBlankText = true)
    (start : text.head? ≠ some '\n') : ∃ unified : Text, unified.isBlankText = true ∧
      unifyLineEnds (gap ++ text) = unified ++ unifyLineEnds text := by
  induction gap using unifyLineEnds.induct with
  | case1 => exact ⟨[], rfl, rfl⟩
  | case2 rest inductionHypothesis =>
    simp only [isBlankText, List.all_cons, Bool.and_eq_true] at blank
    obtain ⟨unified, unifiedBlank, same⟩ := inductionHypothesis blank.2.2
    refine ⟨'\n' :: unified, by simpa [isBlankText] using unifiedBlank, ?_⟩
    simp [unifyLineEnds, same]
  | case3 rest alone inductionHypothesis =>
    simp only [isBlankText, List.all_cons, Bool.and_eq_true] at blank
    obtain ⟨unified, unifiedBlank, same⟩ := inductionHypothesis blank.2
    refine ⟨'\n' :: unified, by simpa [isBlankText] using unifiedBlank, ?_⟩
    -- No line feed follows the carriage return, neither in the gap nor behind it.
    have noFeed : ∀ following, rest ++ text ≠ '\n' :: following := by
      intro following equal
      cases rest with
      | nil => exact start (by simpa using congrArg List.head? equal)
      | cons first others =>
        obtain ⟨rfl, -⟩ := List.cons.inj equal
        exact alone others rfl
    rw [List.cons_append, unifyLineEnds.eq_3 _ noFeed, same]
    rfl
  | case4 character rest pair alone inductionHypothesis =>
    simp only [isBlankText, List.all_cons, Bool.and_eq_true] at blank
    obtain ⟨unified, unifiedBlank, same⟩ := inductionHypothesis blank.2
    refine ⟨character :: unified, by simpa [isBlankText, blank.1] using unifiedBlank, ?_⟩
    rw [List.cons_append, unifyLineEnds_cons alone, same]
    rfl

end Text

section Trimmed

/-- The text is not empty and neither begins nor ends with a blank. -/
structure IsTrimmed (text : Text) : Prop where
  nonempty : text ≠ []
  begins : ∀ first ∈ text.head?, isBlank first = false
  ends : ∀ last ∈ text.getLast?, isBlank last = false

variable {text front back : Text}

/-- There is nothing to trim. -/
theorem IsTrimmed.trim_eq (trimmed : IsTrimmed text) : text.trim = text := by
  obtain ⟨first, rest, rfl⟩ := List.exists_cons_of_ne_nil trimmed.nonempty
  have firstMark := trimmed.begins first rfl
  rcases List.eq_nil_or_concat rest with rfl | ⟨middle, last, rfl⟩
  · exact Text.trim_of_no_blank (by simpa using firstMark)
  · rw [List.concat_eq_append] at trimmed ⊢
    exact Text.trim_of_ends firstMark
      (trimmed.ends last (by rw [← List.cons_append, List.getLast?_concat]; rfl))

theorem IsTrimmed.append (frontTrimmed : IsTrimmed front) (middle : Text)
    (backTrimmed : IsTrimmed back) : IsTrimmed (front ++ middle ++ back) := by
  refine ⟨by simp [frontTrimmed.nonempty], fun first found => frontTrimmed.begins first ?_,
    fun last found => backTrimmed.ends last ?_⟩
  · obtain ⟨begin, rest, rfl⟩ := List.exists_cons_of_ne_nil frontTrimmed.nonempty
    simpa using found
  · rcases List.eq_nil_or_concat back with rfl | ⟨rest, ending, rfl⟩
    · exact absurd rfl backTrimmed.nonempty
    · simpa using found

theorem IsTrimmed.of_ends {first last : Char} {middle : Text} (firstMark : isBlank first = false)
    (lastMark : isBlank last = false) : IsTrimmed (first :: (middle ++ [last])) :=
  ⟨by simp, by simpa using firstMark, by
    rw [← List.cons_append, List.getLast?_concat]
    simpa using lastMark⟩

theorem IsTrimmed.of_no_blank (nonempty : text ≠ [])
    (noBlank : text.all (!isBlank ·) = true) : IsTrimmed text := by
  have each : ∀ character ∈ text, isBlank character = false := by
    simpa using List.all_eq_true.mp noBlank
  exact ⟨nonempty, fun first found => each first (List.mem_of_head? found),
    fun last found => each last (List.mem_of_getLast? found)⟩

/-- What trimming leaves has no blanks at its ends. -/
theorem isTrimmed_trim (nonempty : text.trim ≠ []) : IsTrimmed text.trim where
  nonempty := nonempty
  begins first found := by
    obtain ⟨rest, same⟩ := List.head?_eq_some_iff.mp (Option.mem_def.mp found)
    exact Text.not_blank_of_trim_eq_cons same
  ends last found := by
    obtain ⟨rest, same⟩ := List.getLast?_eq_some_iff.mp (Option.mem_def.mp found)
    exact Text.not_blank_of_trim_eq_concat same

/-- In front of another text a trimmed one stays, and what is left of the other stays behind it. -/
theorem IsTrimmed.exists_trim_append (trimmed : IsTrimmed front) (text : Text) :
    ∃ middle, Text.trim (front ++ text) = front ++ (middle ++ text.trim) := by
  by_cases blank : text.trim = []
  · refine ⟨[], ?_⟩
    rw [Text.trim_append_blank (Text.trim_eq_nil_iff.mp blank), trimmed.trim_eq, blank,
      List.append_nil, List.append_nil]
  · obtain ⟨lead, behind, -, blankBehind, parts⟩ := text.exists_trimmed
    have whole := trimmed.append lead (isTrimmed_trim blank)
    have kept := Text.trim_append_blank blankBehind (front ++ lead ++ text.trim)
    rw [whole.trim_eq] at kept
    refine ⟨lead, ?_⟩
    conv => lhs; rw [parts]
    simpa using kept

/-- Behind another text a trimmed one stays, and what is left of the other stays in front of it. -/
theorem IsTrimmed.exists_append_trim (trimmed : IsTrimmed back) (text : Text) :
    ∃ middle, Text.trim (text ++ back) = text.trim ++ (middle ++ back) := by
  by_cases blank : text.trim = []
  · refine ⟨[], ?_⟩
    rw [Text.trim_blank_append (Text.trim_eq_nil_iff.mp blank), trimmed.trim_eq, blank,
      List.nil_append, List.nil_append]
  · obtain ⟨before, gap, blankBefore, -, parts⟩ := text.exists_trimmed
    have whole := (isTrimmed_trim blank).append gap trimmed
    have kept := Text.trim_blank_append blankBefore (text.trim ++ gap ++ back)
    rw [whole.trim_eq] at kept
    refine ⟨gap, ?_⟩
    conv => lhs; rw [parts]
    simpa using kept

end Trimmed

end RouteCatalog
