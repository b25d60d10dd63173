import RouteCatalog.Proofs.Sample.Fuel
import RouteCatalog.Proofs.Sample.Requests

/-!
# Blank branches of a union

A union may be written with blank branches, such as one before a bar at its beginning. Of two branches or
more that are not blank, the value depends on these alone (`sampleValue_of_branches`). A type with blank
branches around a single one that is not blank is still written with bars and is not understood
(`sampleValue_of_few`), so there the blanks make a difference unless the type is not understood either:
`ignoresBlanks_iff`.
-/

namespace RouteCatalog

open Sampling

/-- The parts of a union that are not blank. -/
def standingParts (parts : List Text) : List Text :=
  parts.filter fun part => !part.isBlankText

/-- Blank branches make no difference: with them, the same value is sampled and the same is asked as
without them. -/
def IgnoresBlanks {source : RandomSource} (now : Instant) (sampler : Sampler source)
    (parts : List Text) : Prop :=
  (sampleValue now (Text.join ['|'] parts)).runOn sampler =
    (sampleValue now (Text.join ['|'] (standingParts parts))).runOn sampler

section Branches

variable {parts : List Text}

/-- Only parts that are not blank are branches. -/
theorem branchesOf_eq_map (parts : List Text) : branchesOf parts = (standingParts parts).map Text.trim := by
  have blank : ∀ part : Text, part.trim.isEmpty = part.isBlankText := by
    intro part
    rw [Bool.eq_iff_iff, List.isEmpty_iff]
    exact Text.trim_eq_nil_iff
  rw [branchesOf, standingParts, List.filter_map]
  exact congrArg _ (List.filter_congr fun part _ => by simp [blank])

theorem standingParts_standingParts (parts : List Text) :
    standingParts (standingParts parts) = standingParts parts := by
  simp [standingParts, List.filter_filter]

/-- A union of closed parts has those branches that are not blank. -/
theorem unionBranches_join (each : ∀ part ∈ parts, IsPart (· == '|') part) (nonempty : parts ≠ []) :
    unionBranches (Text.join ['|'] parts) = (standingParts parts).map Text.trim := by
  obtain ⟨part, others, rfl⟩ := List.exists_cons_of_ne_nil nonempty
  rw [unionBranches_eq_branchesOf, splitTopLevel_join (by decide) each, branchesOf_eq_map]

/-- A union of closed parts has the branches of the union without the blank ones. -/
theorem unionBranches_join_standingParts (each : ∀ part ∈ parts, IsPart (· == '|') part)
    (stands : standingParts parts ≠ []) :
    unionBranches (Text.join ['|'] (standingParts parts)) = unionBranches (Text.join ['|'] parts) := by
  have nonempty : parts ≠ [] := by
    rintro rfl
    exact stands rfl
  have eachStanding : ∀ part ∈ standingParts parts, IsPart (· == '|') part :=
    fun part member => each part (List.mem_filter.mp member).1
  rw [unionBranches_join each nonempty, unionBranches_join eachStanding stands, standingParts_standingParts]

/-- Of closed parts that are not all kept there are two or more, so their union is split at bars. -/
theorem splitTopLevel_join_ne (each : ∀ part ∈ parts, IsPart (· == '|') part)
    (stands : standingParts parts ≠ []) (dropped : standingParts parts ≠ parts) :
    splitTopLevel (· == '|') (Text.join ['|'] parts) ≠ [Text.join ['|'] parts] := by
  cases parts with
  | nil => exact absurd rfl stands
  | cons part others =>
    rw [splitTopLevel_join (by decide) each]
    cases others with
    | nil =>
      -- A single part that is kept is all of them.
      intro _
      have kept : (standingParts [part]).length = 1 :=
        Nat.le_antisymm (List.length_filter_le _ _) (List.length_pos_iff.mpr stands)
      exact dropped (List.filter_sublist.eq_of_length kept)
    | cons next others => simp

end Branches

section Agreement

variable {source : RandomSource} {now : Instant} {text : Text} {parts : List Text}

/-- A union of two branches or more is one of its candidates, and nothing else of its text matters. -/
theorem sampleValue_of_branches (several : 1 < (unionBranches text).length) :
    (sampleValue now text : Sampling source Value) =
      choose (unionCandidates (unionBranches text)) >>= sampleValue now := by
  have union : (sampleValue now text : Sampling source Value) =
      choose (unionCandidates (unionBranches text)) >>= sampleWithin now text.length := by
    have same := unionBranches_trim text
    simp only [sampleValue, sampleWithin, same, if_pos several]
  rw [union]
  refine choose_bind_congr fun chosen possible => sampleWithin_eq_sampleValue ?_
  rcases possible with member | rfl
  · exact length_lt_of_mem_unionBranches several (mem_of_mem_unionCandidates member)
  · obtain ⟨branch, member⟩ := List.exists_mem_of_length_pos (Nat.zero_lt_of_lt several)
    exact Nat.zero_lt_of_lt (length_lt_of_mem_unionBranches several member)

/-- Blank branches make no difference exactly if there are none, or if there are two others or more, or if
the only other one asks nothing and is what a type is that is not understood. -/
theorem ignoresBlanks_iff (each : ∀ part ∈ parts, IsPart (· == '|') part)
    (stands : standingParts parts ≠ []) (now : Instant) (sampler : Sampler source) :
    IgnoresBlanks now sampler parts ↔
      standingParts parts = parts ∨ 1 < (standingParts parts).length ∨
        (sampleValue now (Text.join ['|'] (standingParts parts))).runOn sampler =
          (.ok (unreadValue (Text.join ['|'] parts)), sampler) := by
  have nonempty : parts ≠ [] := by
    rintro rfl
    exact stands rfl
  have branches := unionBranches_join each nonempty
  have sameBranches := unionBranches_join_standingParts each stands
  by_cases several : 1 < (standingParts parts).length
  · have many : 1 < (unionBranches (Text.join ['|'] parts)).length := by
      rwa [branches, List.length_map]
    have agree : IgnoresBlanks now sampler parts := by
      rw [IgnoresBlanks, sampleValue_of_branches many, ← sameBranches,
        ← sampleValue_of_branches (sameBranches ▸ many)]
    exact iff_of_true agree (.inr (.inl several))
  · by_cases kept : standingParts parts = parts
    · have agree : IgnoresBlanks now sampler parts := by rw [IgnoresBlanks, kept]
      exact iff_of_true agree (.inl kept)
    · -- One branch and a bar beside it: the text is not understood.
      have few : (unionBranches (Text.join ['|'] parts)).length ≤ 1 := by
        rw [branches, List.length_map]
        omega
      have unread : (sampleValue now (Text.join ['|'] parts)).runOn sampler =
          (.ok (unreadValue (Text.join ['|'] parts)), sampler) := by
        rw [sampleValue_of_few (splitTopLevel_join_ne each stands kept) few]
        rfl
      rw [IgnoresBlanks, unread, eq_comm]
      simp [kept, several]

/-- Two branches with blank ones before, between and behind them. -/
theorem ignoresBlanks_around_two :
    let parts := ["".toList, " '|' ".toList, " \n".toList, "\x7b a: 'x' | null \x7d[]".toList, " ".toList]
    (∀ part ∈ parts, IsPart (· == '|') part) ∧ standingParts parts ≠ [] ∧
      IgnoresBlanks ⟨2024, 1, 1, 0, 0, 0, 0⟩ (⟨⟨#[3, 1], 0⟩, []⟩ : Sampler Script.source) parts :=
  ⟨by decide, by decide, (ignoresBlanks_iff (by decide) (by decide) _ _).mpr (.inr (.inl (by decide)))⟩

/-- A bar before the only branch makes a text that is not understood. -/
theorem not_ignoresBlanks_leading :
    let parts := ["".toList, " string".toList]
    (∀ part ∈ parts, IsPart (· == '|') part) ∧
      (sampleValue ⟨2024, 1, 1, 0, 0, 0, 0⟩ "| string".toList).runOn
        (⟨⟨#[0], 0⟩, []⟩ : Sampler Script.source) = (.ok .null, ⟨⟨#[0], 0⟩, []⟩) ∧
      (sampleValue ⟨2024, 1, 1, 0, 0, 0, 0⟩ " string".toList).runOn
        (⟨⟨#[0], 0⟩, []⟩ : Sampler Script.source) =
          (.ok (.text "example-0".toList), ⟨⟨#[0], 0⟩, [.between 0 9999]⟩) ∧
      ¬IgnoresBlanks ⟨2024, 1, 1, 0, 0, 0, 0⟩ (⟨⟨#[0], 0⟩, []⟩ : Sampler Script.source) parts := by
  intro parts
  have unread : (sampleValue ⟨2024, 1, 1, 0, 0, 0, 0⟩ "| string".toList).runOn
      (⟨⟨#[0], 0⟩, []⟩ : Sampler Script.source) = (.ok .null, ⟨⟨#[0], 0⟩, []⟩) := rfl
  have sampled : (sampleValue ⟨2024, 1, 1, 0, 0, 0, 0⟩ " string".toList).runOn
      (⟨⟨#[0], 0⟩, []⟩ : Sampler Script.source) =
        (.ok (.text "example-0".toList), ⟨⟨#[0], 0⟩, [.between 0 9999]⟩) := rfl
  refine ⟨by decide, unread, sampled, fun agree => ?_⟩
  have bar : Text.join ['|'] parts = "| string".toList := rfl
  have alone : Text.join ['|'] (standingParts parts) = " string".toList := by decide
  rw [IgnoresBlanks, bar, alone, unread, sampled] at agree
  cases agree

end Agreement

end RouteCatalog
