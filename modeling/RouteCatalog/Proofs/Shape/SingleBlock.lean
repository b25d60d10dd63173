import RouteCatalog.Proofs.Delimiter.Whole
import RouteCatalog.Sample.Value

/-!
# Texts that are one block in braces

What is unwrapped stands between the braces at the ends of a text, which need not belong together:
`isSingleBlock_iff` says when they do. A text therefore has fields only as a single block exactly if its
interior never leads out of the opening brace (`hasFieldsOnlyAsBlock_iff`). It is enough that the
interior is closed (`staysInBrace_iff`). Two object types with anything between them are read as one
(`not_staysInBrace_of_closed`).
-/

namespace RouteCatalog

/-- The delimiter that opens the text, blanks at its ends apart, is closed by its last character. -/
def IsSingleBlock (text : Text) : Prop :=
  blockEnd? text.trim 0 = some (text.trim.length - 1)

/-- The first brace of the text is closed by a character before the last, blanks at its ends apart. -/
def ClosesEarly (text : Text) : Prop :=
  ∃ stop, blockEnd? text.trim (text.trim.idxOf '{') = some stop ∧ stop + 1 < text.trim.length

/-- The text has an interior only as a single block, and neither fields nor a record of any if its first
brace closes early. -/
structure HasFieldsOnlyAsBlock (text : Text) : Prop where
  interior : ∀ interior, unwrapBraces? text = some interior → IsSingleBlock text
  fields : ClosesEarly text → fieldsOf text = []
  record : ClosesEarly text → ∀ (source : RandomSource) (now : Instant),
    (sampleRecord now text : Sampling source Value) = pure (.record [])

/-- The scan behind an opening brace. -/
def Scanner.behindBrace : Scanner :=
  Scanner.start.feed '{'

/-- Behind an opening brace, no beginning of the text leads to top level, and the whole of it leaves just
the brace open. -/
structure StaysInBrace (interior : Text) : Prop where
  nested : ∀ front, front <+: interior → (Scanner.behindBrace.scan front).atTopLevel = false
  outside : (Scanner.behindBrace.scan interior).inString = false
  level : (Scanner.behindBrace.scan interior).nesting = { braces := 1 }

section Brace

variable {text interior front back : Text}

/-- A closing brace leads to top level exactly where just one brace is open. -/
theorem atTopLevel_feed_brace_iff {scanner : Scanner} (nested : scanner.atTopLevel = false) :
    (scanner.feed '}').atTopLevel = true ↔
      scanner.inString = false ∧ scanner.nesting = { braces := 1 } := by
  cases inside : scanner.inString with
  | true =>
    obtain ⟨quote, opened⟩ := Option.isSome_iff_exists.mp inside
    have unmarked : '}' ≠ quote.mark := by cases quote <;> decide
    have still : (scanner.feed '}').inString = true := by
      simp [Scanner.feed, Scanner.inString, Literal.isOpen, Literal.feed, Literal.quoteAfter, opened,
        unmarked]
    simp [Scanner.atTopLevel, still]
  | false =>
    obtain ⟨outside, left⟩ := Scanner.feed_closer inside .brace
    change (scanner.feed '}').inString = false at outside
    change (scanner.feed '}').nesting = _ at left
    have deep : scanner.nesting.depth ≠ 0 := by
      simpa [Scanner.atTopLevel, Scanner.depth, inside] using nested
    simp only [Scanner.atTopLevel, Scanner.depth, outside, left, Bool.not_false, Bool.true_and,
      beq_iff_eq, true_and]
    generalize scanner.nesting = nesting at deep
    obtain ⟨parens, braces, brackets⟩ := nesting
    simp only [Nesting.leave, Nesting.depth, Nesting.mk.injEq] at deep ⊢
    omega

/-- The braces at the ends of a text belong together exactly if what is between them stays in the opening
one. -/
theorem isSingleBlock_iff (unwrapped : unwrapBraces? text = some interior) :
    IsSingleBlock text ↔ StaysInBrace interior := by
  have trimmed := unwrapBraces?_eq_some_iff.mp unwrapped
  have ends : IsSingleBlock text ↔
      lengthToTopLevel? Scanner.behindBrace (interior ++ ['}']) = some interior.length := by
    have opens : Delimiter.isOpener '{' = true := rfl
    rw [IsSingleBlock, trimmed, blockEnd?, List.drop_zero, interiorLength?, if_pos opens]
    simp [Option.map_eq_some_iff, Scanner.behindBrace, Nat.add_comm]
  have short : interior.length < (interior ++ ['}']).length := by simp
  have all : (interior ++ ['}']).take (interior.length + 1) = interior ++ ['}'] :=
    List.take_of_length_le (by simp)
  have beginning : ∀ shorter, shorter < interior.length →
      (interior ++ ['}']).take (shorter + 1) = interior.take (shorter + 1) :=
    fun shorter less => List.take_append_of_le_length less
  have last : Scanner.behindBrace.scan (interior ++ ['}']) =
      (Scanner.behindBrace.scan interior).feed '}' := Scanner.scan_append ..
  rw [ends, lengthToTopLevel?_eq_some_iff, all, last]
  constructor
  · rintro ⟨-, top, never⟩
    have nested : ∀ front, front <+: interior →
        (Scanner.behindBrace.scan front).atTopLevel = false := by
      intro front begins
      rcases List.eq_nil_or_concat front with rfl | ⟨before, character, rfl⟩
      · rfl
      · have bound := begins.length_le
        rw [List.concat_eq_append, List.length_append, List.length_singleton] at bound
        have early := never before.length bound
        rw [beginning _ bound] at early
        rwa [List.prefix_iff_eq_take.mp begins, List.concat_eq_append, List.length_append,
          List.length_singleton]
    obtain ⟨outside, level⟩ := (atTopLevel_feed_brace_iff (nested interior List.prefix_rfl)).mp top
    exact ⟨nested, outside, level⟩
  · intro stays
    refine ⟨short, ?_, fun shorter less => ?_⟩
    · exact (atTopLevel_feed_brace_iff (stays.nested interior List.prefix_rfl)).mpr
        ⟨stays.outside, stays.level⟩
    · rw [beginning shorter less]
      exact stays.nested _ (List.take_prefix _ _)

/-- What has no surplus closer stays in the brace exactly if it is closed. -/
theorem staysInBrace_iff (regular : Scanner.start.hasSurplus interior = false) :
    StaysInBrace interior ↔ isClosed interior = true := by
  have opened : Scanner.Within { braces := 1 } .start Scanner.behindBrace :=
    ⟨.of_not_isOpen rfl rfl, rfl⟩
  have within := opened.scan (.inl regular)
  constructor
  · rintro ⟨-, outside, level⟩
    refine isClosed_iff.mpr ⟨regular, within.inString_eq.trans outside, ?_⟩
    refine Nesting.eq_empty_of_depth_eq_zero ?_
    have depths := congrArg Nesting.depth (within.nesting.symm.trans level)
    rw [Nesting.depth_plus] at depths
    exact Nat.add_left_cancel depths
  · intro closed
    obtain ⟨-, outside, level⟩ := isClosed_iff.mp closed
    refine ⟨fun front begins => ?_, within.inString_eq.symm.trans outside, ?_⟩
    · obtain ⟨back, rfl⟩ := begins
      have inside := opened.scan (.inl (hasSurplus_of_closed_append closed))
      exact Bool.eq_false_iff.mpr fun top => absurd (inside.atTopLevel_iff.mp top).1 (by decide)
    · rw [within.nesting, level, Nesting.plus_empty]

/-- A closing brace behind a closed text leads out of the brace. -/
theorem not_staysInBrace_of_closed (closed : isClosed front = true) :
    ¬StaysInBrace (front ++ '}' :: back) := by
  intro stays
  have early := stays.nested (front ++ ['}']) (by simp)
  have outside : Scanner.behindBrace.inString = false := rfl
  have level := nesting_scan_of_closed outside closed
  have nested := stays.nested front (List.prefix_append _ _)
  have top := (atTopLevel_feed_brace_iff nested).mpr
    ⟨inString_scan_of_closed outside closed, level⟩
  rw [Scanner.scan_append] at early
  exact absurd (top.symm.trans early) (by decide)

end Brace

section Fields

variable {text : Text}

/-- A text without an interior has no fields. -/
theorem fieldsOf_of_not_unwrapped (opaqueText : unwrapBraces? text = none) : fieldsOf text = [] := by
  rw [fieldsOf, opaqueText]

/-- A text without fields gives an empty record and asks nothing. -/
theorem sampleRecord_of_no_fields {source : RandomSource} {now : Instant} (none : fieldsOf text = []) :
    (sampleRecord now text : Sampling source Value) = pure (.record []) := by
  simp [sampleRecord, none, sampleFields]

/-- A single block does not close early. -/
theorem not_closesEarly_of_isSingleBlock {interior : Text}
    (unwrapped : unwrapBraces? text = some interior) (single : IsSingleBlock text) :
    ¬ClosesEarly text := by
  rintro ⟨stop, found, early⟩
  have first : text.trim.idxOf '{' = 0 := by
    rw [unwrapBraces?_eq_some_iff.mp unwrapped, List.idxOf_cons_self]
  rw [first, single] at found
  obtain rfl := Option.some.inj found
  omega

end Fields

/-- A text has fields only as a single block exactly if its interior, where it has one, stays in the
opening brace. -/
theorem hasFieldsOnlyAsBlock_iff (text : Text) : HasFieldsOnlyAsBlock text ↔
    ∀ interior, unwrapBraces? text = some interior → StaysInBrace interior := by
  constructor
  · intro only interior unwrapped
    exact (isSingleBlock_iff unwrapped).mp (only.interior interior unwrapped)
  · intro stays
    have noFields : ClosesEarly text → fieldsOf text = [] := by
      intro early
      cases unwrapped : unwrapBraces? text with
      | none => exact fieldsOf_of_not_unwrapped unwrapped
      | some interior =>
        have single := (isSingleBlock_iff unwrapped).mpr (stays interior unwrapped)
        exact absurd early (not_closesEarly_of_isSingleBlock unwrapped single)
    exact ⟨fun interior unwrapped => (isSingleBlock_iff unwrapped).mpr (stays interior unwrapped),
      noFields, fun early _ _ => sampleRecord_of_no_fields (noFields early)⟩

/-- The type of the first field of a union of two object types goes on over the bar. -/
theorem not_hasFieldsOnlyAsBlock_union :
    ClosesEarly "\x7b a: string \x7d | \x7b b: number \x7d".toList ∧
      fieldsOf "\x7b a: string \x7d | \x7b b: number \x7d".toList =
        [⟨"a".toList, false, "string \x7d | \x7b b: number".toList⟩] ∧
      ¬HasFieldsOnlyAsBlock "\x7b a: string \x7d | \x7b b: number \x7d".toList := by
  have early : ClosesEarly "\x7b a: string \x7d | \x7b b: number \x7d".toList :=
    ⟨12, by decide, by decide⟩
  have garbled : fieldsOf "\x7b a: string \x7d | \x7b b: number \x7d".toList =
      [⟨"a".toList, false, "string \x7d | \x7b b: number".toList⟩] := by decide
  refine ⟨early, garbled, fun only => ?_⟩
  have none := only.fields early
  rw [garbled] at none
  cases none

end RouteCatalog
