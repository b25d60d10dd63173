import Mathlib.Algebra.Order.Field.Power
import Mathlib.Data.Rat.Cast.Order
import Mathlib.Tactic.FieldSimp
import Mathlib.Tactic.Linarith
import Mathlib.Tactic.NormNum
import Mathlib.Tactic.Positivity
import Mathlib.Tactic.Ring
import RouteCatalog.Number.Binary64

/-!
# Rounding to the binary format

A quotient is rounded at the exponent at which it has 53 bits, or at the least exponent. What lies in
the rounding interval of a value, in the sense of `RoundsTo`, is rounded to that value:
`ofQuotient_of_roundsTo`. What rounding gives is a value of the format: `isCanonical_ofQuotient`.
-/

namespace RouteCatalog.Binary64

/-- The significand and the exponent are those of a value of the format. -/
structure IsCanonical (significand : Nat) (exponent : Int) : Prop where
  bounded : significand < significandBound
  least : leastExponent ≤ exponent
  greatest : exponent ≤ greatestExponent
  normal : exponent = leastExponent ∨ leastNormal ≤ significand

/-- The lower end of the rounding interval, in quarters of the last place. Below the least normal
significand the values are twice as dense. -/
def lowQuarter (significand : Nat) (exponent : Int) : Nat :=
  if significand = leastNormal ∧ leastExponent < exponent then 4 * significand - 1
  else 4 * significand - 2

/-- The number is in the rounding interval of a value; its ends are in it if the significand is
even. -/
structure RoundsTo (significand : Nat) (exponent : Int) (number : ℚ) : Prop where
  low : (lowQuarter significand exponent : ℚ) ≤ number / 2 ^ (exponent - 2)
  high : number / 2 ^ (exponent - 2) ≤ 4 * significand + 2
  inside : significand % 2 = 1 → (lowQuarter significand exponent : ℚ) < number / 2 ^ (exponent - 2) ∧
    number / 2 ^ (exponent - 2) < 4 * significand + 2

/-- The ends belong to the rounding interval of an even significand and not to that of an odd one. -/
theorem roundsTo_iff {significand : Nat} {exponent : Int} {number : ℚ} :
    RoundsTo significand exponent number ↔
      if significand % 2 = 0 then (lowQuarter significand exponent : ℚ) ≤ number / 2 ^ (exponent - 2) ∧
        number / 2 ^ (exponent - 2) ≤ 4 * significand + 2
      else (lowQuarter significand exponent : ℚ) < number / 2 ^ (exponent - 2) ∧
        number / 2 ^ (exponent - 2) < 4 * significand + 2 := by
  split
  · rename_i even
    exact ⟨fun rounds => ⟨rounds.low, rounds.high⟩,
      fun ⟨low, high⟩ => ⟨low, high, fun odd => by omega⟩⟩
  · rename_i odd
    exact ⟨fun rounds => rounds.inside (by omega),
      fun ⟨low, high⟩ => ⟨low.le, high.le, fun _ => ⟨low, high⟩⟩⟩

/-- The integer is nearest to the number, and it is even if another one is as near. -/
structure IsNearest (number : ℚ) (integer : Nat) : Prop where
  low : (integer : ℚ) - 1 / 2 ≤ number
  high : number ≤ integer + 1 / 2
  inside : integer % 2 = 1 → (integer : ℚ) - 1 / 2 < number ∧ number < integer + 1 / 2

section Nearest

variable {number : ℚ} {integer other : Nat}

/-- There is one nearest integer. -/
theorem IsNearest.unique (nearest : IsNearest number integer) (alike : IsNearest number other) :
    integer = other := by
  have noneAbove : ∀ {low high : Nat}, IsNearest number low → IsNearest number high →
      high ≤ low := by
    intro low high nearLow nearHigh
    by_contra less
    have next : (high : ℚ) ≥ low + 1 := by exact_mod_cast Nat.not_le.mp less
    have tie : high = low + 1 := by
      have close : (high : ℚ) ≤ low + 1 := by linarith [nearLow.high, nearHigh.low]
      exact_mod_cast le_antisymm close next
    rcases Nat.mod_two_eq_zero_or_one low with even | odd
    · have strict := nearHigh.inside (by omega)
      linarith [nearLow.high]
    · have strict := nearLow.inside odd
      linarith [nearHigh.low]
  exact Nat.le_antisymm (noneAbove alike nearest) (noneAbove nearest alike)

/-- An even integer is not above what is nearest to a number that is half below it. -/
theorem IsNearest.le_of_even (nearest : IsNearest number integer) (even : other % 2 = 0)
    (above : (other : ℚ) - 1 / 2 ≤ number) : other ≤ integer := by
  by_contra less
  have before : (integer : ℚ) + 1 ≤ other := by exact_mod_cast Nat.not_le.mp less
  have tie : other = integer + 1 := by
    have close : (other : ℚ) ≤ integer + 1 := by linarith [nearest.high]
    exact_mod_cast le_antisymm close before
  have strict := nearest.inside (by omega)
  linarith

theorem IsNearest.le_of_lt (nearest : IsNearest number integer) (below : number < other) :
    integer ≤ other := by
  have short : (integer : ℚ) < other + 1 := by linarith [nearest.low]
  exact Nat.lt_succ_iff.mp (by exact_mod_cast short)

section Fraction

variable {whole : Nat} {fraction : ℚ}

/-- A number less than half above an integer is nearest to it. -/
theorem isNearest_of_lt_half (nonneg : 0 ≤ fraction) (less : fraction < 1 / 2) :
    IsNearest (whole + fraction) whole :=
  ⟨by linarith, by linarith, fun _ => ⟨by linarith, by linarith⟩⟩

/-- A number more than half above an integer is nearest to the next one. -/
theorem isNearest_succ_of_half_lt (greater : 1 / 2 < fraction) (less : fraction < 1) :
    IsNearest (whole + fraction) (whole + 1) := by
  have next := Nat.cast_succ (R := ℚ) whole
  exact ⟨by linarith, by linarith, fun _ => ⟨by linarith, by linarith⟩⟩

/-- A number half above an integer is rounded to the even one of its neighbours. -/
theorem isNearest_even_of_half (whole : Nat) :
    IsNearest ((whole : ℚ) + 1 / 2) (whole + whole % 2) := by
  rcases Nat.mod_two_eq_zero_or_one whole with even | odd
  · rw [even, Nat.add_zero]
    refine ⟨by linarith, le_refl _, fun contrary => ?_⟩
    omega
  · rw [odd]
    have next := Nat.cast_succ (R := ℚ) whole
    refine ⟨by linarith, by linarith, fun contrary => ?_⟩
    omega

end Fraction

/-- The rounded quotient is nearest to the quotient. -/
theorem isNearest_roundQuotient {numerator denominator : Nat} (positive : 0 < denominator) :
    IsNearest ((numerator : ℚ) / denominator) (roundQuotient numerator denominator) := by
  have divisor : (0 : ℚ) < denominator := by exact_mod_cast positive
  have parts : (numerator : ℚ) / denominator =
      (numerator / denominator : Nat) + ((numerator % denominator : Nat) : ℚ) / denominator := by
    have whole : (denominator : ℚ) * (numerator / denominator : Nat) +
        (numerator % denominator : Nat) = numerator := by
      exact_mod_cast Nat.div_add_mod numerator denominator
    rw [← whole]
    field_simp
  have nonneg : (0 : ℚ) ≤ ((numerator % denominator : Nat) : ℚ) / denominator := by positivity
  have below : ((numerator % denominator : Nat) : ℚ) / denominator < 1 := by
    rw [div_lt_one divisor]
    exact_mod_cast Nat.mod_lt numerator positive
  have less : ((numerator % denominator : Nat) : ℚ) / denominator < 1 / 2 ↔
      2 * (numerator % denominator) < denominator := by
    rw [div_lt_div_iff₀ divisor two_pos, one_mul, mul_two, ← two_mul]
    exact_mod_cast Iff.rfl
  have greater : 1 / 2 < ((numerator % denominator : Nat) : ℚ) / denominator ↔
      denominator < 2 * (numerator % denominator) := by
    rw [div_lt_div_iff₀ two_pos divisor, one_mul, mul_two, ← two_mul]
    exact_mod_cast Iff.rfl
  rw [parts, roundQuotient]
  split
  · rename_i small
    exact isNearest_of_lt_half nonneg (less.mpr small)
  · split
    · rename_i large
      exact isNearest_succ_of_half_lt (greater.mpr large) below
    · rename_i notSmall notLarge
      have tie : ((numerator % denominator : Nat) : ℚ) / denominator = 1 / 2 :=
        le_antisymm (not_lt.mp (mt greater.mp notLarge)) (not_lt.mp (mt less.mp notSmall))
      rw [tie]
      exact isNearest_even_of_half _

end Nearest

section Scale

/-- One exponent further up a number has half as many units. -/
theorem div_two_zpow_succ (number : ℚ) (place : Int) :
    number / 2 ^ (place + 1) = number / 2 ^ place / 2 := by
  rw [zpow_add₀ two_ne_zero]
  field_simp

/-- A quotient of two factors, one of which is scaled up. -/
theorem scaleUp_div {base : Nat} (positive : 0 < base) (numerator denominator : Nat)
    (exponent : Int) : ((scaleUp base numerator exponent : Nat) : ℚ) /
      (scaleUp base denominator (-exponent) : Nat) =
        (numerator : ℚ) / denominator * (base : ℚ) ^ exponent := by
  have nonzero : (base : ℚ) ≠ 0 := by exact_mod_cast positive.ne'
  obtain ⟨power, rfl | rfl⟩ := exponent.eq_nat_or_neg
  · have none : (-(power : Int)).toNat = 0 := Int.toNat_neg_natCast power
    simp only [scaleUp, none, Nat.pow_eq, Int.toNat_natCast, pow_zero, mul_one, zpow_natCast]
    push_cast
    ring
  · have none : (-(power : Int)).toNat = 0 := Int.toNat_neg_natCast power
    simp only [scaleUp, none, neg_neg, Nat.pow_eq, Int.toNat_natCast, pow_zero, mul_one, zpow_neg,
      zpow_natCast]
    push_cast
    field_simp

theorem scaleUp_pos {base factor : Nat} (baseIsPositive : 0 < base) (positive : 0 < factor)
    (exponent : Int) : 0 < scaleUp base factor exponent :=
  Nat.mul_pos positive (Nat.pow_pos baseIsPositive)

end Scale

section Quotient

variable {numerator denominator : Nat}

/-- The quotient in units of a power of two, rounded. -/
def roundedAt (numerator denominator : Nat) (exponent : Int) : Nat :=
  roundQuotient (scaleUp 2 numerator (-exponent)) (scaleUp 2 denominator exponent)

/-- The exponent at which the quotient has 53 or 54 bits before the point. -/
def estimatedExponent (numerator denominator : Nat) : Int :=
  (numerator.log2 : Int) - denominator.log2 - 53

/-- The exponent that is tried first. -/
def firstExponent (numerator denominator : Nat) : Int :=
  max leastExponent (estimatedExponent numerator denominator)

/-- The value that rounding at an exponent leads to, one exponent further up if it carries. -/
def finishedAt (negative : Bool) (numerator denominator : Nat) (exponent : Int) : Binary64 :=
  let significand := roundedAt numerator denominator exponent
  let (significand, exponent) :=
    if significand = significandBound then (leastNormal, exponent + 1) else (significand, exponent)
  if greatestExponent < exponent then .infinite negative else .finite negative significand exponent

/-- Rounding starts one exponent further up if there are 54 bits. -/
theorem ofQuotient_eq (negative : Bool) : ofQuotient negative numerator denominator =
    let first := firstExponent numerator denominator
    finishedAt negative numerator denominator
      (if significandBound ≤ roundedAt numerator denominator first then first + 1 else first) :=
  rfl

theorem finishedAt_of_carry {negative : Bool} {exponent : Int}
    (carries : roundedAt numerator denominator exponent = significandBound)
    (finite : exponent + 1 ≤ greatestExponent) :
    finishedAt negative numerator denominator exponent =
      .finite negative leastNormal (exponent + 1) := by
  simp [finishedAt, carries, Int.not_lt.mpr finite]

theorem finishedAt_of_ne {negative : Bool} {exponent : Int}
    (fits : roundedAt numerator denominator exponent ≠ significandBound)
    (finite : exponent ≤ greatestExponent) :
    finishedAt negative numerator denominator exponent =
      .finite negative (roundedAt numerator denominator exponent) exponent := by
  simp [finishedAt, fits, Int.not_lt.mpr finite]

theorem isNearest_roundedAt (positive : 0 < denominator) (exponent : Int) :
    IsNearest ((numerator : ℚ) / denominator / 2 ^ exponent)
      (roundedAt numerator denominator exponent) := by
  have scaled := scaleUp_div two_pos numerator denominator (-exponent)
  rw [neg_neg, zpow_neg, ← div_eq_mul_inv] at scaled
  have nearest : IsNearest _ (roundedAt numerator denominator exponent) :=
    isNearest_roundQuotient (scaleUp_pos two_pos positive exponent)
  rw [scaled] at nearest
  exact_mod_cast nearest

/-- The quotient has 53 or 54 bits before the point at the estimated exponent. -/
theorem estimatedExponent_bounds (someNumerator : 0 < numerator) (positive : 0 < denominator) :
    (2 : ℚ) ^ (estimatedExponent numerator denominator + 52) < (numerator : ℚ) / denominator ∧
      (numerator : ℚ) / denominator < 2 ^ (estimatedExponent numerator denominator + 54) := by
  have divisor : (0 : ℚ) < denominator := by exact_mod_cast positive
  have low : (2 : ℚ) ^ (numerator.log2 : Int) ≤ numerator := by
    exact_mod_cast Nat.log2_self_le someNumerator.ne'
  have high : (numerator : ℚ) < 2 ^ ((numerator.log2 : Int) + 1) := by
    exact_mod_cast Nat.lt_log2_self (n := numerator)
  have lowDivisor : (2 : ℚ) ^ (denominator.log2 : Int) ≤ denominator := by
    exact_mod_cast Nat.log2_self_le positive.ne'
  have highDivisor : (denominator : ℚ) < 2 ^ ((denominator.log2 : Int) + 1) := by
    exact_mod_cast Nat.lt_log2_self (n := denominator)
  constructor
  · rw [lt_div_iff₀ divisor]
    calc (2 : ℚ) ^ (estimatedExponent numerator denominator + 52) * denominator
        < 2 ^ (estimatedExponent numerator denominator + 52) * 2 ^ ((denominator.log2 : Int) + 1) :=
          mul_lt_mul_of_pos_left highDivisor (by positivity)
      _ = 2 ^ (numerator.log2 : Int) := by
          rw [← zpow_add₀ two_ne_zero, estimatedExponent]
          congr 1
          ring
      _ ≤ numerator := low
  · rw [div_lt_iff₀ divisor]
    calc (numerator : ℚ) < 2 ^ ((numerator.log2 : Int) + 1) := high
      _ = 2 ^ (estimatedExponent numerator denominator + 54) * 2 ^ (denominator.log2 : Int) := by
          rw [← zpow_add₀ two_ne_zero, estimatedExponent]
          congr 1
          ring
      _ ≤ 2 ^ (estimatedExponent numerator denominator + 54) * denominator :=
          mul_le_mul_of_nonneg_left lowDivisor (by positivity)

variable {significand : Nat} {exponent : Int}

/-- The lower end of the rounding interval is half a place below the value, or a quarter. -/
theorem lowQuarter_bounds (positive : 0 < significand) (exponent : Int) :
    4 * significand - 2 ≤ lowQuarter significand exponent ∧
      lowQuarter significand exponent ≤ 4 * significand - 1 := by
  unfold lowQuarter
  split <;> omega

/-- Of a normal value above the least exponent the interval begins a quarter below a power of two, or
further up. -/
theorem lowQuarter_of_normal (normal : leastNormal ≤ significand) (more : leastExponent < exponent) :
    2 ^ 54 ≤ lowQuarter significand exponent + 1 := by
  unfold lowQuarter
  unfold leastNormal at normal ⊢
  split <;> omega

/-- What is in the rounding interval of a value is nearest to its significand at its exponent. -/
theorem RoundsTo.isNearest {number : ℚ} (positive : 0 < significand)
    (rounds : RoundsTo significand exponent number) :
    IsNearest (number / 2 ^ exponent) significand := by
  have quarters : number / 2 ^ exponent = number / 2 ^ (exponent - 2) / 4 := by
    rw [zpow_sub₀ two_ne_zero]
    field_simp
    norm_num
  have low : (4 : ℚ) * significand - 2 ≤ lowQuarter significand exponent := by
    have bound := (lowQuarter_bounds positive exponent).1
    have cast : 4 * significand ≤ lowQuarter significand exponent + 2 := by omega
    have casted : (4 : ℚ) * significand ≤ lowQuarter significand exponent + 2 := by exact_mod_cast cast
    linarith
  rw [quarters]
  refine ⟨by linarith [rounds.low], by linarith [rounds.high], fun odd => ?_⟩
  obtain ⟨above, below⟩ := rounds.inside odd
  exact ⟨by linarith, by linarith⟩

/-- The quotient in units of a power of two, against the estimated exponent. -/
theorem estimatedExponent_units (someNumerator : 0 < numerator) (positive : 0 < denominator)
    (place : Int) :
    (2 : ℚ) ^ (estimatedExponent numerator denominator - place + 52) <
        (numerator : ℚ) / denominator / 2 ^ place ∧
      (numerator : ℚ) / denominator / 2 ^ place <
        2 ^ (estimatedExponent numerator denominator - place + 54) := by
  obtain ⟨above, below⟩ := estimatedExponent_bounds someNumerator positive
  have unit : (0 : ℚ) < 2 ^ place := by positivity
  have lowPower : estimatedExponent numerator denominator - place + 52 + place =
      estimatedExponent numerator denominator + 52 := by ring
  have highPower : estimatedExponent numerator denominator - place + 54 + place =
      estimatedExponent numerator denominator + 54 := by ring
  rw [lt_div_iff₀ unit, div_lt_iff₀ unit, ← zpow_add₀ two_ne_zero, ← zpow_add₀ two_ne_zero, lowPower,
    highPower]
  exact ⟨above, below⟩

/-- The exponent of a value is at least the one that is estimated for what is rounded to it. -/
theorem RoundsTo.estimatedExponent_le (someNumerator : 0 < numerator) (positive : 0 < denominator)
    (bounded : significand < significandBound)
    (rounds : RoundsTo significand exponent ((numerator : ℚ) / denominator)) :
    estimatedExponent numerator denominator ≤ exponent := by
  have above := (estimatedExponent_units someNumerator positive (exponent - 2)).1
  have most : (4 * significand + 2 : ℚ) < 2 ^ (55 : Int) := by
    have short : 4 * significand + 2 < 2 ^ 55 := by
      unfold significandBound at bounded
      omega
    exact_mod_cast short
  have power := above.trans_le (rounds.high.trans most.le)
  rw [zpow_lt_zpow_iff_right₀ one_lt_two] at power
  omega

/-- The more bits the lower end of the rounding interval has, the further up is the exponent that is
estimated. -/
theorem RoundsTo.lt_estimatedExponent (someNumerator : 0 < numerator) (positive : 0 < denominator)
    (rounds : RoundsTo significand exponent ((numerator : ℚ) / denominator)) (bits : Nat)
    (reached : 2 ^ bits ≤ lowQuarter significand exponent) :
    exponent + bits < estimatedExponent numerator denominator + 56 := by
  have below := (estimatedExponent_units someNumerator positive (exponent - 2)).2
  have low : (2 : ℚ) ^ (bits : Int) ≤ lowQuarter significand exponent := by exact_mod_cast reached
  have power := (low.trans rounds.low).trans_lt below
  rw [zpow_lt_zpow_iff_right₀ one_lt_two] at power
  omega

/-- For what is rounded to a normal value its exponent is estimated, or one of the two below. Two below
it lies only what carries to the least normal significand. -/
theorem RoundsTo.estimatedExponent_cases (someNumerator : 0 < numerator) (positive : 0 < denominator)
    (bounded : significand < significandBound) (normal : leastNormal ≤ significand)
    (rounds : RoundsTo significand exponent ((numerator : ℚ) / denominator)) :
    estimatedExponent numerator denominator = exponent ∨
      estimatedExponent numerator denominator = exponent - 1 ∨
      estimatedExponent numerator denominator = exponent - 2 ∧ significand = leastNormal ∧
        (numerator : ℚ) / denominator / 2 ^ (exponent - 2) < 2 ^ 54 := by
  have normalBits : 2 ^ 52 ≤ significand := normal
  have low := (lowQuarter_bounds (Nat.lt_of_lt_of_le (by decide) normal) exponent).1
  have upper := rounds.estimatedExponent_le someNumerator positive bounded
  have lower := rounds.lt_estimatedExponent someNumerator positive 53 (by omega)
  rcases (by omega : estimatedExponent numerator denominator = exponent ∨
    estimatedExponent numerator denominator = exponent - 1 ∨
    estimatedExponent numerator denominator = exponent - 2) with same | one | two
  · exact .inl same
  · exact .inr (.inl one)
  · refine .inr (.inr ⟨two, ?_, ?_⟩)
    · have short : ¬2 ^ 54 ≤ lowQuarter significand exponent := fun reached => by
        have power := rounds.lt_estimatedExponent someNumerator positive 54 reached
        omega
      unfold leastNormal
      omega
    · have below := (estimatedExponent_units someNumerator positive (exponent - 2)).2
      rw [two, (by ring : exponent - 2 - (exponent - 2) + 54 = 54)] at below
      exact_mod_cast below

/-- What is rounded to a value is first tried at its exponent, or below. Two below it lies only what
carries to the least normal significand. -/
theorem RoundsTo.firstExponent_cases (someNumerator : 0 < numerator) (positive : 0 < denominator)
    (canonical : IsCanonical significand exponent)
    (rounds : RoundsTo significand exponent ((numerator : ℚ) / denominator)) :
    firstExponent numerator denominator = exponent ∨
      leastExponent < exponent ∧ (firstExponent numerator denominator = exponent - 1 ∨
        firstExponent numerator denominator = exponent - 2 ∧ significand = leastNormal ∧
          (numerator : ℚ) / denominator / 2 ^ (exponent - 2) < 2 ^ 54) := by
  have upper := rounds.estimatedExponent_le someNumerator positive canonical.bounded
  have least := canonical.least
  rw [firstExponent]
  rcases canonical.normal with smallest | normal
  · left
    omega
  · rcases rounds.estimatedExponent_cases someNumerator positive canonical.bounded normal with
      same | one | ⟨two, carried, below⟩
    · left
      omega
    · omega
    · -- the least exponent is tried where the estimate is below it
      rcases (by omega : exponent = leastExponent ∨ exponent = leastExponent + 1 ∨
        leastExponent + 1 < exponent) with smallest | next | further
      · left
        omega
      · exact .inr ⟨by omega, .inl (by omega)⟩
      · exact .inr ⟨by omega, .inr ⟨by omega, carried, below⟩⟩

/-- What is in the rounding interval of a value is rounded to the value. -/
theorem ofQuotient_of_roundsTo (negative : Bool) (someNumerator : 0 < numerator)
    (positive : 0 < denominator) (canonical : IsCanonical significand exponent)
    (nonzero : 0 < significand)
    (rounds : RoundsTo significand exponent ((numerator : ℚ) / denominator)) :
    ofQuotient negative numerator denominator = .finite negative significand exponent := by
  have nearest : ∀ place, IsNearest ((numerator : ℚ) / denominator / 2 ^ place)
      (roundedAt numerator denominator place) := isNearest_roundedAt positive
  have atExponent : roundedAt numerator denominator exponent = significand :=
    (nearest exponent).unique (rounds.isNearest nonzero)
  have fits : significand ≠ significandBound := canonical.bounded.ne
  have halves : (numerator : ℚ) / denominator / 2 ^ (exponent - 1) =
      (numerator : ℚ) / denominator / 2 ^ (exponent - 2) / 2 := by
    rw [← div_two_zpow_succ, (by ring : exponent - 2 + 1 = exponent - 1)]
  have bound : (significandBound : ℚ) = 2 ^ 53 := by norm_num [significandBound]
  have quarters (more : leastExponent < exponent) :
      (2 : ℚ) ^ 54 ≤ lowQuarter significand exponent + 1 := by
    have normal := canonical.normal.resolve_left more.ne'
    exact_mod_cast lowQuarter_of_normal normal more
  rw [ofQuotient_eq]
  dsimp only
  rcases rounds.firstExponent_cases someNumerator positive canonical with
    first | ⟨more, first | ⟨first, carried, below⟩⟩
  · -- the significand has 53 bits at once
    rw [first, if_neg (by rw [atExponent]; exact Nat.not_le.mpr canonical.bounded),
      finishedAt_of_ne (by rwa [atExponent]) canonical.greatest, atExponent]
  · -- there are 54 bits, or rounding makes them 54
    have many : significandBound ≤ roundedAt numerator denominator (exponent - 1) :=
      (nearest (exponent - 1)).le_of_even (by decide)
        (by rw [halves, bound]; linarith [rounds.low, quarters more])
    rw [first, if_pos many, Int.sub_add_cancel,
      finishedAt_of_ne (by rwa [atExponent]) canonical.greatest, atExponent]
  · -- rounding makes 54 bits 55, and then carries
    have many : significandBound ≤ roundedAt numerator denominator (exponent - 2) :=
      (nearest (exponent - 2)).le_of_even (by decide)
        (by rw [bound]; linarith [rounds.low, quarters more])
    have carries : roundedAt numerator denominator (exponent - 1) = significandBound := by
      refine le_antisymm ((nearest (exponent - 1)).le_of_lt (by rw [halves, bound]; linarith))
        ((nearest (exponent - 1)).le_of_even (by decide) ?_)
      rw [halves, bound]
      linarith [rounds.low, quarters more]
    rw [first, if_pos many, (by ring : exponent - 2 + 1 = exponent - 1),
      finishedAt_of_carry carries (by rw [Int.sub_add_cancel]; exact canonical.greatest),
      Int.sub_add_cancel, carried]

/-- What rounding at an exponent leads to is a value of the format if the rounded quotient has at most
53 bits, or carries, and exactly as many above the least exponent. -/
theorem isCanonical_finishedAt {negative sign : Bool} {place : Int}
    (few : roundedAt numerator denominator place ≤ significandBound) (least : leastExponent ≤ place)
    (normal : place = leastExponent ∨ leastNormal ≤ roundedAt numerator denominator place)
    (found : finishedAt negative numerator denominator place = .finite sign significand exponent) :
    sign = negative ∧ IsCanonical significand exponent := by
  by_cases carries : roundedAt numerator denominator place = significandBound
  · simp only [finishedAt, carries, if_true] at found
    split at found
    · cases found
    · rename_i finite
      cases found
      exact ⟨rfl, by decide, by omega, Int.not_lt.mp finite, .inr (Nat.le_refl _)⟩
  · simp only [finishedAt, carries, if_false] at found
    split at found
    · cases found
    · rename_i finite
      cases found
      exact ⟨rfl, Nat.lt_of_le_of_ne few carries, least, Int.not_lt.mp finite, normal⟩

/-- The quotient has at most 54 bits before the point at the exponent that is tried first. -/
theorem div_two_zpow_firstExponent_lt (someNumerator : 0 < numerator) (positive : 0 < denominator) :
    (numerator : ℚ) / denominator / 2 ^ firstExponent numerator denominator < 2 ^ 54 := by
  have most : estimatedExponent numerator denominator ≤ firstExponent numerator denominator :=
    le_max_right ..
  have below := (estimatedExponent_units someNumerator positive
    (firstExponent numerator denominator)).2
  refine below.trans_le ?_
  rw [← zpow_natCast]
  exact zpow_le_zpow_right₀ one_le_two (by push_cast; omega)

/-- The exponent that is tried first is the least one, or the quotient has 53 bits before the point. -/
theorem firstExponent_eq_least_or_lt (someNumerator : 0 < numerator) (positive : 0 < denominator) :
    firstExponent numerator denominator = leastExponent ∨
      (2 : ℚ) ^ 52 < (numerator : ℚ) / denominator / 2 ^ firstExponent numerator denominator := by
  rcases max_choice leastExponent (estimatedExponent numerator denominator) with least | estimated
  · exact .inl least
  · right
    have above := (estimatedExponent_units someNumerator positive
      (firstExponent numerator denominator)).1
    rw [firstExponent, estimated, sub_self, zero_add] at above
    rw [firstExponent, estimated]
    exact_mod_cast above

/-- What a quotient is rounded to is a value of the format. -/
theorem isCanonical_ofQuotient {negative sign : Bool} (someNumerator : 0 < numerator)
    (positive : 0 < denominator)
    (found : ofQuotient negative numerator denominator = .finite sign significand exponent) :
    sign = negative ∧ IsCanonical significand exponent := by
  have nearest : ∀ place, IsNearest ((numerator : ℚ) / denominator / 2 ^ place)
      (roundedAt numerator denominator place) := isNearest_roundedAt positive
  have least : leastExponent ≤ firstExponent numerator denominator := le_max_left ..
  have short := div_two_zpow_firstExponent_lt someNumerator positive
  have halves := div_two_zpow_succ ((numerator : ℚ) / denominator)
    (firstExponent numerator denominator)
  have bound : (significandBound : ℚ) = 2 ^ 53 := by norm_num [significandBound]
  have half : (leastNormal : ℚ) = 2 ^ 52 := by norm_num [leastNormal]
  rw [ofQuotient_eq] at found
  dsimp only at found
  split at found
  · rename_i many
    have reached : (2 : ℚ) ^ 53 ≤ roundedAt numerator denominator
        (firstExponent numerator denominator) := by
      rw [← bound]
      exact_mod_cast many
    refine isCanonical_finishedAt ?_ (by omega) (.inr ?_) found
    · exact (nearest _).le_of_lt (by rw [halves, bound]; linarith)
    · refine (nearest _).le_of_even (by decide) ?_
      rw [halves, half]
      linarith [(nearest (firstExponent numerator denominator)).low]
  · rename_i few
    refine isCanonical_finishedAt (Nat.le_of_lt (Nat.not_le.mp few)) least ?_ found
    refine (firstExponent_eq_least_or_lt someNumerator positive).imp_right fun long => ?_
    refine (nearest _).le_of_even (by decide) ?_
    rw [half]
    linarith

end Quotient

end RouteCatalog.Binary64
