import Mathlib.Data.List.Forall2
import RouteCatalog.Proofs.Delimiter.Whole
import RouteCatalog.Proofs.Spacing

/-!
# Tokens between separators

`Unsplit isSeparator tokens` says that no text of the tokens is split. Single tokens without
separators are unsplit, groups are, and what is put together from them is. Splitting a text of
unsplit parts with separators between them gives texts of the parts: `splitTopLevel_joined`.
-/

namespace RouteCatalog

/-- The separators are neither blanks nor delimiters. -/
structure IsSeparating (isSeparator : Char → Bool) : Prop where
  blank : ∀ character, isBlank character = true → isSeparator character = false
  opener : ∀ kind : Delimiter, isSeparator kind.opener = false

/-- The separators of rows separate, and the comma by itself does. -/
theorem isSeparating_rows : IsSeparating isRowSeparator where
  blank character blank := by
    have other : character ∉ [',', ';'] := not_mem_of_any blank (by decide)
    simp only [List.mem_cons, List.not_mem_nil, or_false, not_or] at other
    simp [isRowSeparator, other]
  opener kind := by cases kind <;> decide

theorem isSeparating_comma : IsSeparating (· == ',') where
  blank character blank := by
    rw [beq_eq_false_iff_ne]
    rintro rfl
    exact absurd blank (by decide)
  opener kind := by cases kind <;> decide

/-- Tokens that, however they are spaced, are not split. -/
def Unsplit (isSeparator : Char → Bool) (tokens : List Text) : Prop :=
  ∀ text, Spaced tokens text → splitTopLevel isSeparator text = [text]

/-- Parts with a separator between them. -/
def joinTokens (separator : Char) : List (List Text) → List Text
  | [] => []
  | [part] => part
  | part :: next :: rest => part ++ [separator] :: joinTokens separator (next :: rest)

section Joined

variable {separator : Char} {parts : List (List Text)}

/-- Balanced parts are balanced with closed separators between them. -/
theorem balanced_joinTokens (closed : isClosed [separator] = true)
    (each : ∀ part ∈ parts, Balanced part) : Balanced (joinTokens separator parts) := by
  fun_induction joinTokens separator parts with
  | case1 => exact .nil
  | case2 part => exact each part (by simp)
  | case3 part next rest inductionHypothesis =>
    exact (each part (by simp)).append
      (.token closed (inductionHypothesis fun other member => each other (by simp [member])))

/-- The tokens of joined parts are those of the parts and the separator. -/
theorem mem_joinTokens {token : Text} (member : token ∈ joinTokens separator parts) :
    token = [separator] ∨ ∃ part ∈ parts, token ∈ part := by
  fun_induction joinTokens separator parts with
  | case1 => cases member
  | case2 part => exact .inr ⟨part, by simp, member⟩
  | case3 part next rest inductionHypothesis =>
    rcases List.mem_append.mp member with inPart | further
    · exact .inr ⟨part, by simp, inPart⟩
    · rcases List.mem_cons.mp further with atSeparator | inRest
      · exact .inl atSeparator
      · rcases inductionHypothesis inRest with atSeparator | ⟨other, inParts, inOther⟩
        · exact .inl atSeparator
        · exact .inr ⟨other, List.mem_cons_of_mem _ inParts, inOther⟩

end Joined

section Unsplit

variable {isSeparator : Char → Bool}

/-- Blanks are not split. -/
theorem splitTopLevel_of_blank {gap : Text} (separating : IsSeparating isSeparator)
    (blank : gap.isBlankText = true) : splitTopLevel isSeparator gap = [gap] := by
  refine whole_of_not_separator (List.all_eq_true.mpr fun character member => ?_)
  simp [separating.blank character (List.all_eq_true.mp blank character member)]

namespace Unsplit

theorem nil (separating : IsSeparating isSeparator) : Unsplit isSeparator [] := by
  intro text spaced
  cases spaced with
  | done blank => exact splitTopLevel_of_blank separating blank

/-- A closed token is not split with others that are not split. -/
theorem token {token : Text} {tokens : List Text} (separating : IsSeparating isSeparator)
    (closed : isClosed token = true) (whole : splitTopLevel isSeparator token = [token])
    (rest : Unsplit isSeparator tokens) : Unsplit isSeparator (token :: tokens) := by
  intro text spaced
  cases spaced with
  | token blank _ spacedRest =>
    have front := isClosed_of_blank blank
    exact whole_append (isClosed_append front closed)
      (whole_append front (splitTopLevel_of_blank separating blank) whole) (rest _ spacedRest)

/-- A group of balanced tokens is not split. -/
theorem group (kind : Delimiter) {inside : List Text} (separating : IsSeparating isSeparator)
    (balanced : Balanced inside) :
    Unsplit isSeparator ([kind.opener] :: (inside ++ [[kind.closer]])) := by
  intro text spaced
  cases spaced with
  | token blank _ rest =>
    obtain ⟨before, after, rfl, spacedInside, _, spacedAfter⟩ := rest.split
    cases spacedAfter with
    | done blankBack =>
      have closedInside := spacedInside.closed balanced
      have front := isClosed_of_blank blank
      have parts := whole_append (isClosed_append front (isClosed_group kind closedInside))
        (whole_append front (splitTopLevel_of_blank separating blank)
          (whole_group kind (separating.opener kind) closedInside))
        (splitTopLevel_of_blank separating blankBack)
      simpa using parts

end Unsplit

/-- Unsplit parts with separators between them are the parts of the text. -/
theorem splitTopLevel_joined {separator : Char} {part : List Text} {parts : List (List Text)}
    {text : Text} (separates : isSeparator separator = true) (plain : isPlain separator = true)
    (balanced : ∀ each ∈ part :: parts, Balanced each)
    (unsplit : ∀ each ∈ part :: parts, Unsplit isSeparator each)
    (spaced : Spaced (joinTokens separator (part :: parts)) text) :
    List.Forall₂ Spaced (part :: parts) (splitTopLevel isSeparator text) := by
  induction parts generalizing part text with
  | nil =>
    rw [unsplit part (by simp) text spaced]
    exact .cons spaced .nil
  | cons next parts inductionHypothesis =>
    obtain ⟨before, after, rfl, spacedPart, -, spacedRest⟩ := spaced.split
    have following := inductionHypothesis (fun each member => balanced each (by simp [member]))
      (fun each member => unsplit each (by simp [member])) spacedRest
    rw [List.append_assoc, List.singleton_append, splitTopLevel_cons separates plain
      (spacedPart.closed (balanced part (by simp))) (unsplit part (by simp) before spacedPart)]
    exact .cons spacedPart following

end Unsplit

end RouteCatalog
