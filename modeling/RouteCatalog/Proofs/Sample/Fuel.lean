import RouteCatalog.Proofs.Sample.Short

/-!
# Fuel that lasts

Every part of a type that sampling looks at is shorter than the type, so fuel for more characters than
the type has lasts, and any two amounts of it give the same computation:
`sampleWithin_eq_sampleValue`.
-/

namespace RouteCatalog

section Parts

variable {text part : Text}

/-- Where there are several parts, each is shorter than the text. -/
theorem length_lt_of_mem_splitTopLevel {separator : Char}
    (several : 1 < (splitTopLevel (· == separator) text).length)
    (member : part ∈ splitTopLevel (· == separator) text) : part.length < text.length := by
  have lengths : ∀ parts : List Text, 1 < parts.length → part ∈ parts →
      part.length < (Text.join [separator] parts).length := by
    intro parts
    induction parts with
    | nil => intro _ member; cases member
    | cons first others inductionHypothesis =>
      intro several member
      cases others with
      | nil => simp at several
      | cons second others =>
        simp only [Text.join, List.length_append, List.length_singleton]
        rcases List.mem_cons.mp member with rfl | further
        · omega
        · cases others with
          | nil =>
            rw [List.mem_singleton.mp further]
            simp only [Text.join]
            omega
          | cons third others =>
            have shorter := inductionHypothesis (by simp) further
            omega
  have shorter := lengths _ several member
  rwa [join_splitTopLevel] at shorter

/-- Of several branches, each is shorter than the type. -/
theorem length_lt_of_mem_unionBranches (several : 1 < (unionBranches text).length)
    (member : part ∈ unionBranches text) : part.length < text.length := by
  have parts : (unionBranches text).length ≤ (splitTopLevel (· == '|') text).length := by
    refine (List.length_filter_le _ _).trans ?_
    rw [List.length_map]
  obtain ⟨whole, inSplit, rfl⟩ := List.mem_map.mp (List.mem_filter.mp member).1
  have shorter := length_lt_of_mem_splitTopLevel (several.trans_le parts) inSplit
  exact (Text.trim_isInfix whole).length_le.trans_lt shorter

/-- The item type of an array is shorter than the type. -/
theorem length_lt_of_arrayItem? (item : arrayItem? text = some part) : part.length < text.length := by
  rcases exists_of_arrayItem? item with rfl | ⟨opening, -, rfl⟩ <;>
    simp only [List.length_append, List.length_cons] <;> omega

/-- What stands between the marks of a group is shorter than it. -/
theorem length_lt_of_head? {first : Char} (begins : text.head? = some first) :
    (text.drop 1).dropLast.length < text.length := by
  cases text with
  | nil => cases begins
  | cons opening rest =>
    rw [List.drop_one, List.tail_cons, List.length_dropLast, List.length_cons]
    omega

/-- The type of a field is shorter than the object type. -/
theorem length_lt_of_mem_fieldsOf {field : Field} (member : field ∈ fieldsOf text) :
    field.type.length < text.length := by
  unfold fieldsOf at member
  split at member
  · cases member
  · rename_i interior unwrapped
    obtain ⟨row, inRows, read⟩ := List.mem_filterMap.mp member
    have inside := ((isInfix_of_fieldOfRow? read).trans
      ((isInfix_of_mem_splitFrom _ _ interior).2 row inRows)).length_le
    have whole := (Text.trim_isInfix text).length_le
    rw [unwrapBraces?_eq_some_iff.mp unwrapped] at whole
    simp only [List.length_cons, List.length_append, List.length_nil] at whole
    omega

end Parts

section Fuel

variable {source : RandomSource} {now : Instant} {text : Text} {fuel : Nat}

/-- A record is the same if the types of its fields are sampled in the same way. -/
theorem sampleFields_congr {sample other : Text → Sampling source Value} {fields : List Field}
    (same : ∀ field ∈ fields, sample field.type = other field.type) (entries : List (Text × Value)) :
    sampleFields sample fields entries = sampleFields other fields entries := by
  induction fields generalizing entries with
  | nil => rfl
  | cons field rest inductionHypothesis =>
    have later := inductionHypothesis fun field member => same field (List.mem_cons_of_mem _ member)
    simp only [sampleFields, same field List.mem_cons_self, later]

/-- Two amounts of fuel that last give the same computation. -/
theorem sampleWithin_eq_of_lt {other : Nat} (enough : text.length < fuel)
    (otherEnough : text.length < other) :
    (sampleWithin now fuel text : Sampling source Value) = sampleWithin now other text := by
  induction fuel generalizing other text with
  | zero => cases enough
  | succ fuel inductionHypothesis =>
    obtain ⟨other, rfl⟩ := Nat.exists_eq_succ_of_ne_zero (Nat.ne_zero_of_lt otherEnough)
    have trimmed := (Text.trim_isInfix text).length_le
    have shorter : ∀ {part : Text}, part.length < text.trim.length →
        (sampleWithin now fuel part : Sampling source Value) = sampleWithin now other part :=
      fun short => inductionHypothesis (by omega) (by omega)
    simp only [sampleWithin]
    split
    · rename_i several
      refine Sampling.choose_bind_congr fun chosen possible => shorter ?_
      rcases possible with member | rfl
      · exact length_lt_of_mem_unionBranches several (mem_of_mem_unionCandidates member)
      · obtain ⟨branch, member⟩ := List.exists_mem_of_length_pos (Nat.zero_lt_of_lt several)
        exact Nat.zero_lt_of_lt (length_lt_of_mem_unionBranches several member)
    · cases found : arrayItem? text.trim with
      | some item =>
        simp only [shorter (length_lt_of_arrayItem? found)]
      | none =>
        dsimp only
        split
        · rename_i group
          exact shorter (length_lt_of_head? group.1)
        · split
          · rw [sampleFields_congr fun field member => shorter (length_lt_of_mem_fieldsOf member)]
          · rfl

/-- Fuel that lasts has no part in the value. -/
theorem sampleWithin_eq_sampleValue (enough : text.length < fuel) :
    (sampleWithin now fuel text : Sampling source Value) = sampleValue now text :=
  sampleWithin_eq_of_lt enough (Nat.lt_succ_self _)

end Fuel

end RouteCatalog
