import RouteCatalog.Proofs.Sample.Forms

/-!
# What sampling asks

Sampling takes back nothing that it has asked (`extends_sampleWithin`), and a union asks for one of its
candidates before everything else (`choice_suffix_sampleValue`). A type that is split at bars but has no
two branches, such as one with a bar before its only branch, asks nothing and is null but for the empty
brackets at its end: `sampleValue_of_few`.
-/

namespace RouteCatalog

open Sampling

section Extends

variable {source : RandomSource} {now : Instant}

/-- A type without parts takes back nothing that has been asked. -/
theorem extends_sampleScalar (now : Instant) (text : Text) :
    Extends (sampleScalar now text : Sampling source Value) := by
  unfold sampleScalar
  split
  · exact ((extends_drawBelow _ _).bind fun _ => .pure _).bind fun _ => .pure _
  split
  · exact (extends_drawBelow _ _).bind fun _ => .pure _
  split
  · exact extends_fraction.bind fun _ => .pure _
  split
  · exact .pure _
  split
  · exact .pure _
  split
  · exact .pure _
  split
  · exact .pure _
  split
  · split <;> exact .pure _
  · split
    · exact .pure _
    · exact .throw _
  · exact .pure _

theorem extends_sampleFields {sample : Text → Sampling source Value}
    (each : ∀ text, Extends (sample text)) (fields : List Field) (entries : List (Text × Value)) :
    Extends (sampleFields sample fields entries) := by
  induction fields generalizing entries with
  | nil => exact .pure _
  | cons field rest inductionHypothesis =>
    have goesOn (included : Bool) : Extends (if included then do
          let value ← sample field.type
          sampleFields sample rest (put field.key value entries)
        else sampleFields sample rest entries) := by
      split
      · exact (each field.type).bind fun value => inductionHypothesis _
      · exact inductionHypothesis _
    cases optional : field.optional with
    | true =>
      have fractions : Extends (fraction : Sampling source Fraction) := extends_fraction
      have drawn := fractions.bind fun drawn => goesOn (drawn.lessThan includeRate)
      simpa [sampleFields, optional] using drawn
    | false => simpa [sampleFields, optional] using goesOn true

/-- Sampling takes back nothing that has been asked. -/
theorem extends_sampleWithin (now : Instant) (fuel : Nat) (text : Text) :
    Extends (sampleWithin now fuel text : Sampling source Value) := by
  induction fuel generalizing text with
  | zero => exact .pure _
  | succ fuel inductionHypothesis =>
    simp only [sampleWithin]
    split
    · exact (extends_choose _).bind inductionHypothesis
    · split
      · exact (inductionHypothesis _).bind fun _ => (inductionHypothesis _).bind fun _ => .pure _
      · split
        · exact inductionHypothesis _
        · split
          · exact (extends_sampleFields inductionHypothesis _ _).bind fun _ => .pure _
          · exact extends_sampleScalar now _

/-- A union asks for one of its candidates before everything else. -/
theorem choice_suffix_sampleValue {text : Text} (several : 1 < (unionBranches text.trim).length)
    (now : Instant) (sampler : Sampler source) :
    .choice (unionCandidates (unionBranches text.trim)) :: sampler.requests <:+
      ((sampleValue now text).runOn sampler).2.requests := by
  have union : (sampleValue now text : Sampling source Value) =
      choose (unionCandidates (unionBranches text.trim)) >>= sampleWithin now text.length := by
    simp only [sampleValue, sampleWithin, if_pos several]
  rw [union]
  exact choice_suffix_bind (extends_sampleWithin now _) sampler

end Extends

section Idle

variable {source : RandomSource} {now : Instant} {text : Text}

/-- Null inside as many lists as there are empty brackets at the end of a type, of which at most `fuel` are
read. -/
def nullsWithin : (fuel : Nat) → Text → Value
  | 0, _ => .null
  | fuel + 1, text =>
    match Text.dropEnding? text.trim "[]".toList with
    | some item => .list [nullsWithin fuel item, nullsWithin fuel item]
    | none => .null

/-- What a type is that is not understood: null, inside a list for each pair of empty brackets at its
end. -/
def unreadValue (text : Text) : Value :=
  nullsWithin (text.length + 1) text

/-- A type without parts that has a bar at one of its ends means nothing. -/
theorem sampleScalar_of_bar (bar : text.head? = some '|' ∨ text.getLast? = some '|') :
    (sampleScalar now text : Sampling source Value) = pure .null := by
  have member : '|' ∈ text := bar.elim List.mem_of_mem_head? List.mem_of_getLast?
  have noWord : ∀ word : Text, '|' ∉ word → text ≠ word := by
    rintro word absent rfl
    exact absent member
  have unquoted : Text.unwrapMarks? ['\'', '"'] text = none := by
    refine Option.eq_none_iff_forall_ne_some.mpr fun inside found => ?_
    obtain ⟨mark, quote, rfl⟩ := Text.unwrapMarks?_eq_some_iff.mp found
    rw [← List.cons_append, List.getLast?_concat, List.cons_append, List.head?_cons, or_self] at bar
    rw [Option.some.inj bar] at quote
    exact absurd quote (by decide)
  have noNumber : numberLiteral? text = none := by
    refine Option.eq_none_iff_forall_ne_some.mpr fun fractional literal => ?_
    rcases mem_numberLiteral? literal member with minus | point | digit
    · exact absurd minus (by decide)
    · exact absurd point (by decide)
    · exact absurd digit (by decide)
  simp only [sampleScalar, noWord _ (by decide : '|' ∉ "string".toList),
    noWord _ (by decide : '|' ∉ "number".toList), noWord _ (by decide : '|' ∉ "boolean".toList),
    noWord _ (by decide : '|' ∉ "Date".toList), noWord _ (by decide : '|' ∉ "true".toList),
    noWord _ (by decide : '|' ∉ "false".toList), unquoted, noNumber, if_false]

/-- A block does not end with a character that is no delimiter. -/
theorem isOneBlock_of_plain_end (kind : Delimiter) {last : Char} (plain : isPlain last = true) :
    isOneBlock (kind.opener :: (text ++ [last])) = false := by
  refine Bool.eq_false_iff.mpr fun oneBlock => ?_
  have block : block? (kind.opener :: (text ++ [last])) = some (kind.opener :: (text ++ [last])) :=
    block?_append_eq_some_iff.mpr oneBlock
  obtain ⟨opener, interior, closer, behind, -, same, notPlain⟩ := exists_of_block? block
  obtain ⟨-, ends⟩ := List.cons.inj same
  obtain ⟨-, ending⟩ := List.append_inj' ends rfl
  obtain rfl : last = closer := by simpa using ending
  rw [plain] at notPlain
  cases notPlain

/-- A type that is no array has no empty brackets at its end. -/
theorem dropEnding?_of_no_array (noArray : arrayItem? text = none) :
    Text.dropEnding? text "[]".toList = none := by
  unfold arrayItem? at noArray
  split at noArray
  · cases noArray
  · assumption

/-- A type with a bar at its end and fewer than two branches asks nothing. -/
theorem sampleWithin_of_bar_at_end {fuel : Nat} {front : Text} (trimmed : text.trim = front ++ ['|'])
    (few : (unionBranches text).length ≤ 1) :
    (sampleWithin now (fuel + 1) text : Sampling source Value) = pure (nullsWithin (fuel + 1) text) := by
  have single : ¬1 < (unionBranches text.trim).length := by
    rw [unionBranches_trim]
    omega
  have noArray : arrayItem? text.trim = none := by
    refine Option.eq_none_iff_forall_ne_some.mpr fun item found => ?_
    rw [trimmed] at found
    rcases exists_of_arrayItem? found with same | ⟨opening, -, same⟩
    · have ends := congrArg List.getLast? same
      simp at ends
    · have ends := congrArg List.getLast? same
      simp [← List.append_assoc] at ends
  have noObject : unwrapBraces? text.trim = none := by
    refine Option.eq_none_iff_forall_ne_some.mpr fun inside found => ?_
    have ends := congrArg List.getLast? (unwrapBraces?_eq_some_iff.mp found)
    rw [Text.trim_trim, trimmed, ← List.cons_append, List.getLast?_concat, List.getLast?_concat] at ends
    exact absurd ends (by decide)
  have noGroup : ¬(text.trim.head? = some '(' ∧ isOneBlock text.trim = true) := by
    rw [trimmed]
    rintro ⟨opens, block⟩
    cases front with
    | nil => cases opens
    | cons first inside =>
      obtain rfl : first = Delimiter.paren.opener := Option.some.inj opens
      exact absurd ((isOneBlock_of_plain_end .paren (by decide)).symm.trans block) (by decide)
  have scalar : (sampleScalar now text.trim : Sampling source Value) = pure .null :=
    sampleScalar_of_bar (.inr (by rw [trimmed, List.getLast?_concat]))
  simp only [sampleWithin, if_neg single, noArray, if_neg noGroup, noObject, Option.isSome_none,
    Bool.false_eq_true, if_false, scalar, nullsWithin, dropEnding?_of_no_array noArray]

/-- Only in brackets does an array begin with a bar, and then its item type does. -/
theorem exists_item_of_bar {item : Text} (begins : text.head? = some '|')
    (found : arrayItem? text = some item) :
    ∃ behind, item = '|' :: behind ∧ text = '|' :: behind ++ ['[', ']'] := by
  rcases exists_of_arrayItem? found with same | ⟨opening, among, same⟩
  · cases item with
    | nil =>
      rw [same] at begins
      cases begins
    | cons first behind =>
      rw [same] at begins
      obtain rfl : first = '|' := Option.some.inj begins
      exact ⟨behind, rfl, same⟩
  · rw [same] at begins
    rcases List.mem_cons.mp among with rfl | among
    · cases begins
    · obtain rfl := List.mem_singleton.mp among
      cases begins

/-- A type with a bar at its beginning and fewer than two branches asks nothing. -/
theorem sampleWithin_of_bar (fuel : Nat) {rest : Text} (trimmed : text.trim = '|' :: rest)
    (few : (unionBranches text).length ≤ 1) :
    (sampleWithin now fuel text : Sampling source Value) = pure (nullsWithin fuel text) := by
  -- Such a type can still be an array in brackets; its item type begins with the bar again.
  induction fuel generalizing text rest with
  | zero => rfl
  | succ fuel inductionHypothesis =>
    have single : ¬1 < (unionBranches text.trim).length := by
      rw [unionBranches_trim]
      omega
    have begins : text.trim.head? = some '|' := by rw [trimmed]; rfl
    cases found : arrayItem? text.trim with
    | some item =>
      obtain ⟨behind, rfl, same⟩ := exists_item_of_bar begins found
      have bar : IsTrimmed ['|'] := .of_no_blank (by simp) (by decide)
      obtain ⟨gap, trimmedBehind⟩ := bar.exists_trim_append behind
      have itemTrimmed : Text.trim ('|' :: behind) = '|' :: (gap ++ Text.trim behind) := trimmedBehind
      have fewer : (unionBranches ('|' :: behind)).length ≤ 1 := by
        refine (length_unionBranches_brackets _).trans ?_
        rwa [← same, unionBranches_trim]
      have dropped : Text.dropEnding? text.trim "[]".toList = some ('|' :: behind) :=
        Text.dropEnding?_eq_some_iff.mpr same
      have sampled := inductionHypothesis itemTrimmed fewer
      simp only [sampleWithin, if_neg single, found, sampled, pure_bind, nullsWithin, dropped]
    | none =>
      have noObject : unwrapBraces? text.trim = none := by
        refine Option.eq_none_iff_forall_ne_some.mpr fun inside object => ?_
        rw [unwrapBraces?_eq_some_iff, Text.trim_trim, trimmed] at object
        cases object
      have scalar : (sampleScalar now text.trim : Sampling source Value) = pure .null :=
        sampleScalar_of_bar (.inl begins)
      have noBrackets := dropEnding?_of_no_array found
      simp only [sampleWithin, if_neg single, found, begins, noObject, scalar, nullsWithin, noBrackets]
      simp

/-- A type that is split at bars but has no two branches asks nothing and is not understood. -/
theorem sampleValue_of_few (cut : splitTopLevel (· == '|') text ≠ [text])
    (few : (unionBranches text).length ≤ 1) :
    (sampleValue now text : Sampling source Value) = pure (unreadValue text) := by
  rcases exists_bar_of_few cut few with ⟨rest, trimmed⟩ | ⟨front, trimmed⟩
  · exact sampleWithin_of_bar _ trimmed few
  · exact sampleWithin_of_bar_at_end trimmed few

end Idle

end RouteCatalog
