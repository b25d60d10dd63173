import RouteCatalog.Json.Writer
import RouteCatalog.Proofs.Number.Digits
import RouteCatalog.Proofs.Text.Blank

/-!
# The lines of JSON text

JSON text has no carriage returns: the control characters of a string are escaped. So it is the same
whether line ends are unified or not, `unifyLineEnds_write`.
-/

namespace RouteCatalog

namespace Json

section Scalars

theorem not_mem_natText {mark : Char} (other : mark.isDigit = false) (number : Nat) :
    mark ∉ natText number := fun member => by
  simp [isDigit_of_mem_natText member] at other

theorem not_mem_intText {mark : Char} (other : mark.isDigit = false) (noSign : mark ≠ '-')
    (number : Int) : mark ∉ intText number := by
  cases number with
  | ofNat magnitude => exact not_mem_natText other magnitude
  | negSucc below => simpa [intText, noSign] using not_mem_natText other (below + 1)

theorem return_not_mem_positional {digits : Text} (absent : '\r' ∉ digits) (exponent : Int) :
    '\r' ∉ FloatNotation.positional digits exponent := by
  have front : ∀ places, '\r' ∉ digits.take places := fun _ member =>
    absent (List.mem_of_mem_take member)
  have back : ∀ places, '\r' ∉ digits.drop places := fun _ member =>
    absent (List.mem_of_mem_drop member)
  simp only [FloatNotation.positional]
  split
  · simp [absent, List.mem_replicate]
  · split <;> simp [front, back, List.mem_replicate]

theorem return_not_mem_scientific {digits : Text} (absent : '\r' ∉ digits) (width : Nat)
    (exponent : Int) : '\r' ∉ FloatNotation.scientific width digits exponent := by
  have power : '\r' ∉ natText exponent.natAbs := not_mem_natText (by decide) _
  simp only [FloatNotation.scientific, List.mem_append, List.mem_cons, not_or]
  refine ⟨?_, by decide, by split <;> decide, by simp [List.mem_replicate], power⟩
  split
  · simpa using absent
  · exact absent

/-- The names of what is no decimal have no carriage returns in documents. -/
theorem return_not_mem_binary64 (number : Binary64) : '\r' ∉ documentNotation.write number := by
  cases number with
  | notANumber => decide
  | infinite negative => cases negative <;> decide
  | finite negative significand exponent =>
    have sign : '\r' ∉ (if negative then ['-'] else []) := by cases negative <;> decide
    simp only [FloatNotation.write]
    split
    · rw [List.mem_append, not_or]
      exact ⟨sign, by decide⟩
    · rw [List.mem_append, not_or]
      refine ⟨sign, ?_⟩
      split
      · exact return_not_mem_positional (not_mem_natText (by decide) _) _
      · exact return_not_mem_scientific (not_mem_natText (by decide) _) _ _

/-- A control character is escaped, and no escape holds one. -/
theorem control_not_mem_escape {mark : Char} (control : mark.toNat < 0x20) (character : Char) :
    mark ∉ escape character := by
  by_cases escaped : character.toNat < 0x20
  · have checked : ∀ code < 0x20, (escape (Char.ofNat code)).all (0x20 ≤ ·.toNat) = true := by
      decide +kernel
    have graphic := checked character.toNat escaped
    rw [Char.ofNat_toNat] at graphic
    intro member
    exact absurd control (Nat.not_lt.mpr (of_decide_eq_true (List.all_eq_true.mp graphic mark member)))
  · have different : mark ≠ character := by
      rintro rfl
      exact escaped control
    have noQuote : mark ≠ '"' := by
      rintro rfl
      exact absurd control (by decide)
    have noBackslash : mark ≠ '\\' := by
      rintro rfl
      exact absurd control (by decide)
    simp only [escape]
    split_ifs <;> simp_all

theorem control_not_mem_quote {mark : Char} (control : mark.toNat < 0x20) (characters : Text) :
    mark ∉ quote characters := by
  have noQuote : mark ≠ '"' := by
    rintro rfl
    exact absurd control (by decide)
  simp [quote, quoteBody, control_not_mem_escape control, noQuote]

end Scalars

section Structures

variable {parts : List Text}

theorem return_not_mem_join {separator : Text} (absent : '\r' ∉ separator)
    (each : ∀ part ∈ parts, '\r' ∉ part) : '\r' ∉ Text.join separator parts := by
  fun_induction Text.join separator parts with
  | case1 => simp
  | case2 part => exact each part (by simp)
  | case3 part next rest inductionHypothesis =>
    have following := inductionHypothesis fun other member => each other (by simp [member])
    simp [absent, each part, following]

theorem return_not_mem_lineStart (level : Nat) : '\r' ∉ lineStart level := by
  simp [lineStart, List.mem_replicate]

theorem return_not_mem_enclosed {opening closing : Char} {level : Nat} (opens : opening ≠ '\r')
    (closes : closing ≠ '\r') (each : ∀ part ∈ parts, '\r' ∉ part) :
    '\r' ∉ enclosed opening closing level parts := by
  have joined : '\r' ∉ Text.join (',' :: lineStart (level + 1)) parts :=
    return_not_mem_join (by simp [return_not_mem_lineStart]) each
  unfold enclosed
  split
  · simp [opens.symm, closes.symm]
  · simp [opens.symm, closes.symm, joined, return_not_mem_lineStart]

end Structures

mutual

/-- A value is written without carriage returns. -/
theorem return_not_mem_writeAt :
    ∀ (level : Nat) (value : Value), '\r' ∉ writeAt documentNotation level value
  | _, .null => by simp
  | _, .bool flag => by cases flag <;> simp
  | _, .int number => not_mem_intText (by decide) (by decide) number
  | _, .float number => return_not_mem_binary64 number
  | _, .text characters => control_not_mem_quote (by decide) characters
  | level, .list items =>
    return_not_mem_enclosed (by decide) (by decide) (return_not_mem_writeItems (level + 1) items)
  | level, .record entries =>
    return_not_mem_enclosed (by decide) (by decide)
      (return_not_mem_writeEntries (level + 1) entries)

theorem return_not_mem_writeItems :
    ∀ (level : Nat) (items : List Value), ∀ part ∈ writeItems documentNotation level items,
      '\r' ∉ part
  | _, [] => by simp
  | level, item :: rest => by
    rw [writeItems_cons, List.forall_mem_cons]
    exact ⟨return_not_mem_writeAt level item, return_not_mem_writeItems level rest⟩

theorem return_not_mem_writeEntries :
    ∀ (level : Nat) (entries : List (Text × Value)),
      ∀ part ∈ writeEntries documentNotation level entries, '\r' ∉ part
  | _, [] => by simp
  | level, (key, value) :: rest => by
    have keyText : '\r' ∉ quote key := control_not_mem_quote (by decide) key
    have valueText := return_not_mem_writeAt level value
    rw [writeEntries_cons, List.forall_mem_cons]
    exact ⟨by simp [keyText, valueText], return_not_mem_writeEntries level rest⟩

end

/-- Unifying line ends leaves JSON text as it is. -/
theorem unifyLineEnds_write (value : Value) :
    (write documentNotation value).unifyLineEnds = write documentNotation value := by
  have same : Text.unifyLineEnds (write documentNotation value ++ []) =
      write documentNotation value ++ Text.unifyLineEnds [] :=
    Text.unifyLineEnds_append (return_not_mem_writeAt 0 value)
  simpa [Text.unifyLineEnds] using same

end Json

end RouteCatalog
