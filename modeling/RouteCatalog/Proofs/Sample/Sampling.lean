import RouteCatalog.Sample.Value

/-!
# What sampling yields and asks

A computation yields a property if, whatever its source answers within the bounds, it gives a value
with the property and meets no number that is too long. `Yields.bind` puts computations together. No
computation takes back what has been asked, so what is asked first can be told from what is asked in the
end: `requests_suffix_bind`.
-/

namespace RouteCatalog.Sampling

variable {source : RandomSource} {α β : Type}

/-- Whatever the source answers, the computation gives a value of which the property holds. -/
def Yields (sampling : Sampling source α) (property : α → Prop) : Prop :=
  ∀ sampler, ∃ value next, sampling.runOn sampler = (.ok value, next) ∧ property value

theorem Yields.pure {property : α → Prop} {value : α} (holds : property value) :
    Yields (pure value : Sampling source α) property :=
  fun sampler => ⟨value, sampler, rfl, holds⟩

/-- A computation goes on unless the one before it met a number that is too long. -/
theorem runOn_bind_eq (first : Sampling source α) (second : α → Sampling source β)
    (sampler : Sampler source) : (first >>= second).runOn sampler =
      match first.runOn sampler with
      | (.ok value, next) => (second value).runOn next
      | (.error tooLong, next) => (.error tooLong, next) := by
  simp only [runOn, ExceptT.run_bind, StateT.run_bind]
  cases StateT.run (ExceptT.run first) sampler with
  | mk answer next => cases answer <;> rfl

/-- A computation goes on with what the one before it gave. -/
theorem runOn_bind {first : Sampling source α} {second : α → Sampling source β} {value : α}
    {sampler next : Sampler source} (given : first.runOn sampler = (.ok value, next)) :
    (first >>= second).runOn sampler = (second value).runOn next := by
  rw [runOn_bind_eq, given]

theorem Yields.bind {first : Sampling source α} {second : α → Sampling source β}
    {property : α → Prop} {outcome : β → Prop} (begins : Yields first property)
    (goesOn : ∀ value, property value → Yields (second value) outcome) :
    Yields (first >>= second) outcome := by
  intro sampler
  obtain ⟨value, next, given, holds⟩ := begins sampler
  obtain ⟨answer, last, found, result⟩ := goesOn value holds next
  exact ⟨answer, last, (runOn_bind given).trans found, result⟩

theorem Yields.mono {sampling : Sampling source α} {property weaker : α → Prop}
    (yields : Yields sampling property) (implies : ∀ value, property value → weaker value) :
    Yields sampling weaker := by
  intro sampler
  obtain ⟨value, next, given, holds⟩ := yields sampler
  exact ⟨value, next, given, implies value holds⟩

/-- What is drawn is below the bound. -/
theorem yields_drawBelow (request : RandomRequest) {bound : Nat} (positive : 0 < bound) :
    Yields (drawBelow request bound : Sampling source Nat) (· < bound) :=
  fun sampler => ⟨_, _, rfl, source.below_lt bound sampler.state positive⟩

theorem yields_between {low high : Nat} (ordered : low ≤ high) :
    Yields (between low high : Sampling source Nat) fun number => low ≤ number ∧ number ≤ high :=
  (yields_drawBelow _ (Nat.succ_pos _)).bind fun offset bounded => .pure (by omega)

theorem yields_below {bound : Nat} (positive : 0 < bound) :
    Yields (below bound : Sampling source Nat) (· < bound) :=
  yields_drawBelow _ positive

theorem yields_fraction : Yields (fraction : Sampling source Fraction) fun _ => True :=
  fun _ => ⟨_, _, rfl, trivial⟩

/-- What is chosen is one of the candidates. -/
theorem yields_choose {candidates : List Text} (nonempty : candidates ≠ []) :
    Yields (choose candidates : Sampling source Text) (· ∈ candidates) := by
  refine (yields_drawBelow _ (List.length_pos_iff.mpr nonempty)).bind fun index bounded => .pure ?_
  rw [List.getD_eq_getElem?_getD, List.getElem?_eq_getElem bounded, Option.getD_some]
  exact List.getElem_mem bounded

/-- What follows a choice may be replaced by what does the same with the candidates. -/
theorem choose_bind_congr {candidates : List Text} {next other : Text → Sampling source α}
    (same : ∀ chosen, chosen ∈ candidates ∨ chosen = [] → next chosen = other chosen) :
    (choose candidates >>= next) = choose candidates >>= other := by
  have drawn : ∀ index, candidates.getD index [] ∈ candidates ∨ candidates.getD index [] = [] := by
    intro index
    rw [List.getD_eq_getElem?_getD]
    cases found : candidates[index]? with
    | none => exact .inr rfl
    | some chosen => exact .inl (List.mem_of_getElem? found)
  simp only [choose, bind_assoc, pure_bind]
  exact bind_congr fun index => same _ (drawn index)

/-- The computation adds to what has been asked and takes nothing back. -/
def Extends (sampling : Sampling source α) : Prop :=
  ∀ sampler, sampler.requests <:+ (sampling.runOn sampler).2.requests

theorem Extends.pure (value : α) : Extends (pure value : Sampling source α) :=
  fun _ => List.suffix_rfl

theorem Extends.throw (tooLong : NumberTooLong) : Extends (throw tooLong : Sampling source α) :=
  fun _ => List.suffix_rfl

theorem extends_drawBelow (request : RandomRequest) (bound : Nat) :
    Extends (drawBelow request bound : Sampling source Nat) :=
  fun _ => List.suffix_cons _ _

theorem extends_fraction : Extends (fraction : Sampling source Fraction) :=
  fun _ => List.suffix_cons _ _

/-- What has been asked before a computation goes on is still there in the end. -/
theorem requests_suffix_bind {first : Sampling source α} {second : α → Sampling source β}
    (later : ∀ value, Extends (second value)) (sampler : Sampler source) :
    (first.runOn sampler).2.requests <:+ ((first >>= second).runOn sampler).2.requests := by
  rw [runOn_bind_eq]
  cases first.runOn sampler with
  | mk answer next =>
    cases answer with
    | ok value => exact later value next
    | error tooLong => exact List.suffix_rfl

theorem Extends.bind {first : Sampling source α} {second : α → Sampling source β}
    (begins : Extends first) (later : ∀ value, Extends (second value)) :
    Extends (first >>= second) :=
  fun sampler => (begins sampler).trans (requests_suffix_bind later sampler)

theorem extends_choose (candidates : List Text) : Extends (choose candidates : Sampling source Text) :=
  (extends_drawBelow _ _).bind fun _ => .pure _

/-- A choice is asked for before everything else. -/
theorem choice_suffix_bind {candidates : List Text} {second : Text → Sampling source α}
    (later : ∀ value, Extends (second value)) (sampler : Sampler source) :
    .choice candidates :: sampler.requests <:+
      ((choose candidates >>= second).runOn sampler).2.requests := by
  have asked : .choice candidates :: sampler.requests =
      ((choose candidates : Sampling source Text).runOn sampler).2.requests := rfl
  rw [asked]
  exact requests_suffix_bind later sampler

end RouteCatalog.Sampling
