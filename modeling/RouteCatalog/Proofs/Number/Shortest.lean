import RouteCatalog.Proofs.Number.Digits
import RouteCatalog.Proofs.Number.Rounding

/-!
# Decimals that read back

The decimal that is written for a value of the binary format lies in the rounding interval of the value
(`shortest_roundsTo`), and every decimal in that interval reads back as the value
(`ofDecimal_of_roundsTo`). The search for the shortest decimal ends, since a grid that is finer than a
quarter of the last place has a point below the value in the interval.
-/

namespace RouteCatalog

/-- The number that a decimal is, without its sign. -/
def Decimal.magnitude (decimal : Decimal) : ℚ :=
  decimal.significand * 10 ^ decimal.exponent

/-- A positive number lies between powers of ten as it has digits. -/
theorem natText_bounds {number : Nat} (positive : 0 < number) :
    10 ^ ((natText number).length - 1) ≤ number ∧ number < 10 ^ (natText number).length := by
  have some : 0 < (natText number).length := Nat.length_toDigits_pos
  refine ⟨?_, (Nat.length_toDigits_le_iff (by decide) some).mp (Nat.le_refl _)⟩
  by_contra less
  rcases Nat.eq_zero_or_pos ((natText number).length - 1) with single | several
  · rw [single, pow_zero] at less
    exact less positive
  · have shorter : (natText number).length ≤ (natText number).length - 1 :=
      (Nat.length_toDigits_le_iff (by decide) several).mpr (Nat.not_le.mp less)
    omega

/-- A decimal lies between powers of ten as its significand has digits. -/
theorem Decimal.magnitude_bounds (decimal : Decimal) (some : 0 < decimal.significand) :
    (10 : ℚ) ^ ((natText decimal.significand).length + decimal.exponent - 1) ≤ decimal.magnitude ∧
      decimal.magnitude < 10 ^ ((natText decimal.significand).length + decimal.exponent) := by
  obtain ⟨low, high⟩ := natText_bounds some
  have digits : 0 < (natText decimal.significand).length := Nat.length_toDigits_pos
  have ten : (0 : ℚ) < 10 ^ decimal.exponent := by positivity
  constructor
  · have atLeast : (10 : ℚ) ^ ((natText decimal.significand).length - 1 : Nat) ≤
        decimal.significand := by exact_mod_cast low
    calc (10 : ℚ) ^ ((natText decimal.significand).length + decimal.exponent - 1)
        = 10 ^ ((((natText decimal.significand).length - 1 : Nat) : Int) + decimal.exponent) := by
          congr 1
          omega
      _ = 10 ^ ((natText decimal.significand).length - 1 : Nat) * 10 ^ decimal.exponent := by
          rw [zpow_add₀ (by norm_num), zpow_natCast]
      _ ≤ decimal.magnitude := mul_le_mul_of_nonneg_right atLeast ten.le
  · have less : (decimal.significand : ℚ) < 10 ^ (natText decimal.significand).length := by
      exact_mod_cast high
    calc decimal.magnitude < 10 ^ (natText decimal.significand).length * 10 ^ decimal.exponent :=
          mul_lt_mul_of_pos_right less ten
      _ = 10 ^ (((natText decimal.significand).length : Int) + decimal.exponent) := by
          rw [zpow_add₀ (by norm_num), zpow_natCast]

namespace Binary64

variable {significand : Nat} {exponent : Int}

section Interval

variable {number : ℚ}

/-- What is rounded to a positive value is neither too small nor too great for the format. -/
theorem RoundsTo.bounds (canonical : IsCanonical significand exponent) (nonzero : 0 < significand)
    (rounds : RoundsTo significand exponent number) :
    (2 : ℚ) ^ (-1075 : Int) ≤ number ∧ number < 2 ^ (1024 : Int) := by
  have unit : (0 : ℚ) < 2 ^ (exponent - 2) := by positivity
  have least : leastExponent ≤ exponent := canonical.least
  have greatest : exponent ≤ greatestExponent := canonical.greatest
  unfold leastExponent at least
  unfold greatestExponent at greatest
  constructor
  · have two : (2 : ℚ) ≤ lowQuarter significand exponent := by
      have low := (lowQuarter_bounds nonzero exponent).1
      have atLeast : 2 ≤ lowQuarter significand exponent := by omega
      exact_mod_cast atLeast
    have above := (le_div_iff₀ unit).mp rounds.low
    calc (2 : ℚ) ^ (-1075 : Int) ≤ 2 ^ (exponent - 1) := zpow_le_zpow_right₀ one_le_two (by omega)
      _ = 2 * 2 ^ (exponent - 2) := by
          rw [← zpow_one_add₀ two_ne_zero]
          congr 1
          ring
      _ ≤ lowQuarter significand exponent * 2 ^ (exponent - 2) :=
          mul_le_mul_of_nonneg_right two unit.le
      _ ≤ number := above
  · have bounded : significand < 2 ^ 53 := canonical.bounded
    have most : (4 * significand + 2 : ℚ) < 2 ^ (55 : Int) := by
      have short : 4 * significand + 2 < 2 ^ 55 := by omega
      exact_mod_cast short
    have below := (div_le_iff₀ unit).mp rounds.high
    calc number ≤ (4 * significand + 2) * 2 ^ (exponent - 2) := below
      _ < 2 ^ (55 : Int) * 2 ^ (exponent - 2) := mul_lt_mul_of_pos_right most unit
      _ = 2 ^ (exponent + 53) := by
          rw [← zpow_add₀ two_ne_zero]
          congr 1
          ring
      _ ≤ 2 ^ (1024 : Int) := zpow_le_zpow_right₀ one_le_two (by omega)

/-- Powers of ten beyond the powers of two that bound the format. -/
theorem greatestPower_le : (2 : ℚ) ^ (1024 : Int) ≤ 10 ^ (310 : Int) := by
  have naturals : 2 ^ 1024 ≤ 10 ^ 310 := by decide +kernel
  have casted : ((2 ^ 1024 : Nat) : ℚ) ≤ (10 ^ 310 : Nat) := Nat.cast_le.mpr naturals
  rw [Nat.cast_pow, Nat.cast_pow] at casted
  exact casted

theorem le_leastPower : (10 : ℚ) ^ (-330 : Int) ≤ 2 ^ (-1075 : Int) := by
  have naturals : 2 ^ 1075 ≤ 10 ^ 330 := by decide +kernel
  have casted : ((2 ^ 1075 : Nat) : ℚ) ≤ (10 ^ 330 : Nat) := Nat.cast_le.mpr naturals
  rw [Nat.cast_pow, Nat.cast_pow] at casted
  rw [zpow_neg, zpow_neg]
  exact inv_anti₀ (by positivity) casted

/-- A decimal in the rounding interval of a value reads back as the value. -/
theorem ofDecimal_of_roundsTo {decimal : Decimal} (canonical : IsCanonical significand exponent)
    (nonzero : 0 < significand) (rounds : RoundsTo significand exponent decimal.magnitude) :
    ofDecimal decimal = .finite decimal.negative significand exponent := by
  obtain ⟨above, below⟩ := rounds.bounds canonical nonzero
  have some : 0 < decimal.significand := by
    refine Nat.pos_of_ne_zero fun zero => ?_
    rw [Decimal.magnitude, zero, Nat.cast_zero, zero_mul] at above
    exact absurd above (not_le.mpr (by positivity))
  obtain ⟨low, high⟩ := decimal.magnitude_bounds some
  have notGreat : ¬310 < ((natText decimal.significand).length : Int) + decimal.exponent := by
    intro great
    have reached : (10 : ℚ) ^ (310 : Int) ≤ decimal.magnitude :=
      (zpow_le_zpow_right₀ (by norm_num) (by omega)).trans low
    exact absurd (greatestPower_le.trans reached) (not_le.mpr below)
  have notSmall : ¬((natText decimal.significand).length : Int) + decimal.exponent < -330 := by
    intro small
    have short : decimal.magnitude < 10 ^ (-330 : Int) :=
      high.trans_le (zpow_le_zpow_right₀ (by norm_num) (by omega))
    exact absurd (short.trans_le le_leastPower) (not_lt.mpr above)
  have quotient : ((scaleUp 10 decimal.significand decimal.exponent : Nat) : ℚ) /
      (scaleUp 10 1 (-decimal.exponent) : Nat) = decimal.magnitude := by
    rw [scaleUp_div (by decide), Decimal.magnitude]
    norm_num
  simp only [ofDecimal, if_neg some.ne', if_neg notGreat, if_neg notSmall]
  exact ofQuotient_of_roundsTo _ (scaleUp_pos (by decide) some _) (scaleUp_pos (by decide) one_pos _)
    canonical nonzero (by rwa [quotient])

end Interval

section Grid

variable {grid : Int} {index : Nat}

/-- A quarter of the last place, in units common to the value and the grid. -/
def gridUnit (exponent grid : Int) : Nat :=
  scaleUp 10 (scaleUp 2 1 (exponent - 2)) (-grid)

/-- The distance of two points of the grid, in the same units. -/
def gridStep (exponent grid : Int) : Nat :=
  scaleUp 10 (scaleUp 2 1 (2 - exponent)) grid

/-- Does a point of the grid read back as the value? -/
def readsBack (significand : Nat) (exponent grid : Int) (index : Nat) : Bool :=
  let low := lowQuarter significand exponent * gridUnit exponent grid
  let high := (4 * significand + 2) * gridUnit exponent grid
  let point := index * gridStep exponent grid
  if significand % 2 = 0 then low ≤ point && point ≤ high else low < point && point < high

/-- The point of the grid before the value. -/
def pointBelow (significand : Nat) (exponent grid : Int) : Nat :=
  4 * significand * gridUnit exponent grid / gridStep exponent grid

/-- The grid is searched at the two points around the value. -/
theorem onGrid?_eq : onGrid? significand exponent grid =
    let below := pointBelow significand exponent grid
    if readsBack significand exponent grid below then
      if readsBack significand exponent grid (below + 1) then
        some (roundQuotient (4 * significand * gridUnit exponent grid) (gridStep exponent grid))
      else some below
    else if readsBack significand exponent grid (below + 1) then some (below + 1)
    else none :=
  rfl

theorem gridUnit_pos : 0 < gridUnit exponent grid :=
  scaleUp_pos (by decide) (scaleUp_pos two_pos one_pos _) _

theorem gridStep_pos : 0 < gridStep exponent grid :=
  scaleUp_pos (by decide) (scaleUp_pos two_pos one_pos _) _

/-- The distance of two points in quarters of the last place. -/
theorem gridStep_div_gridUnit (exponent grid : Int) : (gridStep exponent grid : ℚ) / gridUnit exponent grid =
    10 ^ grid / 2 ^ (exponent - 2) := by
  have powers := scaleUp_div two_pos 1 1 (2 - exponent)
  rw [neg_sub] at powers
  rw [gridStep, gridUnit, scaleUp_div (by decide), powers, ← neg_sub exponent 2, zpow_neg]
  push_cast
  ring

/-- A point of the grid reads back if it is in the rounding interval. -/
theorem readsBack_iff : readsBack significand exponent grid index = true ↔
    RoundsTo significand exponent (index * 10 ^ grid) := by
  have unit : (0 : ℚ) < gridUnit exponent grid := by exact_mod_cast gridUnit_pos
  have quarters : (index * 10 ^ grid : ℚ) / 2 ^ (exponent - 2) =
      (index * gridStep exponent grid : Nat) / gridUnit exponent grid := by
    rw [mul_div_assoc, ← gridStep_div_gridUnit]
    push_cast
    ring
  rw [roundsTo_iff, quarters, readsBack]
  split
  · rw [Bool.and_eq_true, decide_eq_true_eq, decide_eq_true_eq, le_div_iff₀ unit, div_le_iff₀ unit]
    exact_mod_cast Iff.rfl
  · rw [Bool.and_eq_true, decide_eq_true_eq, decide_eq_true_eq, lt_div_iff₀ unit, div_lt_iff₀ unit]
    exact_mod_cast Iff.rfl

/-- A rounded quotient is the whole quotient or one more. -/
theorem roundQuotient_cases (numerator denominator : Nat) :
    roundQuotient numerator denominator = numerator / denominator ∨
      roundQuotient numerator denominator = numerator / denominator + 1 := by
  simp only [roundQuotient]
  split
  · exact .inl rfl
  · split
    · exact .inr rfl
    · rcases Nat.mod_two_eq_zero_or_one (numerator / denominator) with even | odd
      · exact .inl (by rw [even, Nat.add_zero])
      · exact .inr (by rw [odd])

/-- What is found on a grid is in the rounding interval. -/
theorem roundsTo_of_onGrid? (found : onGrid? significand exponent grid = some index) :
    RoundsTo significand exponent (index * 10 ^ grid) := by
  rw [← readsBack_iff]
  rw [onGrid?_eq] at found
  dsimp only at found
  split at found
  · rename_i below
    split at found
    · rename_i above
      obtain rfl := Option.some.inj found
      rcases roundQuotient_cases (4 * significand * gridUnit exponent grid) (gridStep exponent grid)
        with same | same
      · rw [same]
        exact below
      · rw [same]
        exact above
    · obtain rfl := Option.some.inj found
      exact below
  · split at found
    · rename_i above
      obtain rfl := Option.some.inj found
      exact above
    · cases found

/-- On a grid that is as fine as a quarter of the last place something is found. -/
theorem exists_onGrid? (nonzero : 0 < significand) (fine : (10 : ℚ) ^ grid ≤ 2 ^ (exponent - 2)) :
    ∃ index, onGrid? significand exponent grid = some index := by
  have unit : (0 : ℚ) < gridUnit exponent grid := by exact_mod_cast gridUnit_pos
  have power : (0 : ℚ) < 2 ^ (exponent - 2) := by positivity
  have close : gridStep exponent grid ≤ gridUnit exponent grid := by
    have ratio := gridStep_div_gridUnit exponent grid
    have small := (div_le_one unit).mp (ratio.le.trans ((div_le_one power).mpr fine))
    exact_mod_cast small
  have reads : readsBack significand exponent grid (pointBelow significand exponent grid) = true := by
    have under : pointBelow significand exponent grid * gridStep exponent grid ≤
        4 * significand * gridUnit exponent grid := Nat.div_mul_le_self ..
    have beyond : 4 * significand * gridUnit exponent grid <
        pointBelow significand exponent grid * gridStep exponent grid + gridStep exponent grid :=
      Nat.lt_div_mul_add gridStep_pos
    have low : (lowQuarter significand exponent + 1) * gridUnit exponent grid ≤
        4 * significand * gridUnit exponent grid := by
      have bound := (lowQuarter_bounds nonzero exponent).2
      exact Nat.mul_le_mul_right _ (by omega)
    have some : 0 < gridUnit exponent grid := gridUnit_pos
    rw [Nat.add_mul, Nat.one_mul] at low
    simp only [readsBack, Nat.add_mul]
    split
    · rw [Bool.and_eq_true, decide_eq_true_eq, decide_eq_true_eq]
      omega
    · rw [Bool.and_eq_true, decide_eq_true_eq, decide_eq_true_eq]
      omega
  rw [onGrid?_eq]
  simp only [reads, if_true]
  split
  · exact ⟨_, rfl⟩
  · exact ⟨_, rfl⟩

/-- The search ends on the first grid on which something is found. -/
theorem coarsestHit_of_exists {tries : Nat} {start : Int}
    (reached : ∃ finer, finer < tries ∧
      ∃ index, onGrid? significand exponent (start - finer) = some index) :
    onGrid? significand exponent (coarsestHit significand exponent tries start).2 =
      some (coarsestHit significand exponent tries start).1 := by
  induction tries generalizing start with
  | zero =>
    obtain ⟨finer, none, -⟩ := reached
    exact absurd none (Nat.not_lt_zero finer)
  | succ tries inductionHypothesis =>
    rw [coarsestHit]
    cases here : onGrid? significand exponent start with
    | some index => exact here
    | none =>
      refine inductionHypothesis ?_
      obtain ⟨finer, bounded, index, found⟩ := reached
      cases finer with
      | zero =>
        rw [Nat.cast_zero, Int.sub_zero, here] at found
        cases found
      | succ finer =>
        refine ⟨finer, Nat.lt_of_succ_lt_succ bounded, index, ?_⟩
        rw [← found]
        congr 1
        push_cast
        ring

/-- The shortest decimal of a value is in its rounding interval. -/
theorem shortest_roundsTo (canonical : IsCanonical significand exponent)
    (nonzero : 0 < significand) :
    RoundsTo significand exponent
      ((shortest significand exponent).1 * 10 ^ (shortest significand exponent).2) := by
  have least : leastExponent ≤ exponent := canonical.least
  have greatest : exponent ≤ greatestExponent := canonical.greatest
  unfold leastExponent at least
  unfold greatestExponent at greatest
  refine roundsTo_of_onGrid? (coarsestHit_of_exists ?_)
  -- whole numbers are fine enough for great values, and powers of eight are below those of ten
  obtain ⟨grid, fine, within⟩ : ∃ grid : Int, (10 : ℚ) ^ grid ≤ 2 ^ (exponent - 2) ∧
      grid ≤ (exponent + 54) * 30103 / 100000 + 2 ∧
        (exponent + 54) * 30103 / 100000 + 2 < grid + 400 := by
    by_cases whole : 2 ≤ exponent
    · refine ⟨0, ?_, by omega, by omega⟩
      rw [zpow_zero]
      exact one_le_zpow₀ one_le_two (by omega)
    · refine ⟨(exponent - 2) / 3, ?_, by omega, by omega⟩
      obtain ⟨places, same⟩ := Int.eq_ofNat_of_zero_le (by omega : 0 ≤ -((exponent - 2) / 3))
      have cubes : (8 : ℚ) ^ places = 2 ^ (3 * (places : Int)) := by
        rw [zpow_mul, zpow_natCast]
        norm_num
      calc (10 : ℚ) ^ ((exponent - 2) / 3) = (10 ^ places)⁻¹ := by
            rw [← neg_neg ((exponent - 2) / 3), same, zpow_neg, zpow_natCast]
        _ ≤ (8 ^ places)⁻¹ :=
            inv_anti₀ (by positivity) (pow_le_pow_left₀ (by norm_num) (by norm_num) places)
        _ = 2 ^ (-(3 * (places : Int))) := by rw [cubes, zpow_neg]
        _ ≤ 2 ^ (exponent - 2) := zpow_le_zpow_right₀ one_le_two (by omega)
  obtain ⟨finer, same⟩ := Int.eq_ofNat_of_zero_le (Int.sub_nonneg_of_le within.1)
  refine ⟨finer, by omega, ?_⟩
  rw [← same, sub_sub_cancel]
  exact exists_onGrid? nonzero fine

end Grid

section Finite

/-- The value is neither infinite nor no number, and one of the format. -/
def IsFinite : Binary64 → Prop
  | .finite _ significand exponent => IsCanonical significand exponent
  | .infinite _ | .notANumber => False

/-- Is the value neither infinite nor no number? -/
def isFinite : Binary64 → Bool
  | .finite _ _ _ => true
  | .infinite _ | .notANumber => false

theorem isFinite_zero (negative : Bool) : (zero negative).IsFinite :=
  ⟨by decide, le_rfl, by decide, .inl rfl⟩

/-- A decimal is a value of the format, unless it is infinite. -/
theorem isFinite_ofDecimal {decimal : Decimal} (finite : (ofDecimal decimal).isFinite = true) :
    (ofDecimal decimal).IsFinite := by
  by_cases none : decimal.significand = 0
  · have same : ofDecimal decimal = zero decimal.negative := by simp [ofDecimal, none]
    rw [same]
    exact isFinite_zero _
  · by_cases great : 310 < ((natText decimal.significand).length : Int) + decimal.exponent
    · simp [ofDecimal, none, great, isFinite] at finite
    · by_cases small : ((natText decimal.significand).length : Int) + decimal.exponent < -330
      · have same : ofDecimal decimal = zero decimal.negative := by
          simp [ofDecimal, none, great, small]
        rw [same]
        exact isFinite_zero _
      · simp only [ofDecimal, if_neg none, if_neg great, if_neg small] at finite ⊢
        have some : 0 < decimal.significand := Nat.pos_of_ne_zero none
        cases rounded : ofQuotient decimal.negative (scaleUp 10 decimal.significand decimal.exponent)
            (scaleUp 10 1 (-decimal.exponent)) with
        | finite sign significand exponent =>
          exact (isCanonical_ofQuotient (scaleUp_pos (by decide) some _)
            (scaleUp_pos (by decide) one_pos _) rounded).2
        | infinite sign =>
          rw [rounded] at finite
          cases finite
        | notANumber =>
          rw [rounded] at finite
          cases finite

/-- What is read is a value of the format, unless it is infinite or no number. -/
theorem isFinite_of_readBinary64? {text : Text} {number : Binary64}
    (read : readBinary64? text = some number) (finite : number.isFinite = true) :
    number.IsFinite := by
  simp only [readBinary64?, Option.bind_eq_bind, Option.bind_eq_some_iff] at read
  obtain ⟨plain, -, read⟩ := read
  split at read
  · rename_i special named
    obtain rfl := Option.some.inj read
    simp only [readSpecial?] at named
    split at named
    · cases named
      cases finite
    · split at named
      · cases named
        cases finite
      · cases named
  · obtain ⟨decimal, -, rfl⟩ := Option.map_eq_some_iff.mp read
    exact isFinite_ofDecimal finite

end Finite

end Binary64

end RouteCatalog
