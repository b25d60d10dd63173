import RouteCatalog.Number.Decimal

/-!
# Binary floating point

The values of the 64-bit binary format: `significand * 2 ^ exponent` with a significand below
2 ^ 53 and an exponent from -1074 to 971, the infinities, and one value that is no number. Reading
rounds an exact decimal to the nearest value, a tie to the even significand. Writing takes the
coarsest decimal grid that has a point which reads back as the value, and of its points the nearest;
a tie goes to the even digit. Both are exact integer arithmetic.
-/

namespace RouteCatalog

/-- A value of the 64-bit binary format. -/
inductive Binary64 where
  | finite (negative : Bool) (significand : Nat) (exponent : Int)
  | infinite (negative : Bool)
  | notANumber
  deriving DecidableEq, Repr

namespace Binary64

/-- The least exponent of a significand. -/
def leastExponent : Int := -1074

/-- The greatest exponent of a significand. -/
def greatestExponent : Int := 971

/-- Zero with a sign. -/
def zero (negative : Bool) : Binary64 :=
  .finite negative 0 leastExponent

/-- Is the value a zero of either sign? -/
def isZero : Binary64 → Bool
  | finite _ significand _ => significand == 0
  | _ => false

/-- The quotient rounded to the nearest integer, a tie to the even one. -/
def roundQuotient (numerator denominator : Nat) : Nat :=
  let quotient := numerator / denominator
  let remainder := numerator % denominator
  if 2 * remainder < denominator then quotient
  else if denominator < 2 * remainder then quotient + 1
  else quotient + quotient % 2

/-- `factor * base ^ exponent` for a non-negative exponent, and `factor` for a negative one. -/
def scaleUp (base factor : Nat) (exponent : Int) : Nat :=
  factor * base.pow exponent.toNat

/-- Two to the fifty-second, the least significand of a value that is not subnormal. -/
def leastNormal : Nat := 0x10000000000000

/-- Two to the fifty-third, the bound of significands. -/
def significandBound : Nat := 0x20000000000000

/-- The quotient of two positive integers rounded to the nearest value. -/
def ofQuotient (negative : Bool) (numerator denominator : Nat) : Binary64 :=
  let roundAt (exponent : Int) : Nat :=
    roundQuotient (scaleUp 2 numerator (-exponent)) (scaleUp 2 denominator exponent)
  let estimate : Int := (numerator.log2 : Int) - denominator.log2 - 53
  let exponent := max leastExponent estimate
  let exponent := if significandBound ≤ roundAt exponent then exponent + 1 else exponent
  let significand := roundAt exponent
  let (significand, exponent) :=
    if significand = significandBound then (leastNormal, exponent + 1) else (significand, exponent)
  if greatestExponent < exponent then .infinite negative else .finite negative significand exponent

/-- The value nearest to a decimal. Decimals beyond 10 ^ 310 are infinite and those below
10 ^ -330 are zero, whatever their digits. -/
def ofDecimal (decimal : Decimal) : Binary64 :=
  let magnitude : Int := (natText decimal.significand).length + decimal.exponent
  if decimal.significand = 0 then zero decimal.negative
  else if 310 < magnitude then .infinite decimal.negative
  else if magnitude < -330 then zero decimal.negative
  else
    ofQuotient decimal.negative (scaleUp 10 decimal.significand decimal.exponent)
      (scaleUp 10 1 (-decimal.exponent))

/-- The value of an integer. -/
def ofInt (integer : Int) : Binary64 :=
  ofDecimal ⟨integer < 0, integer.natAbs, 0⟩

/-- The integer that a value is, if it is one. -/
def toInt? : Binary64 → Option Int
  | finite negative significand exponent =>
    let scaled := scaleUp 2 significand exponent
    let unit := scaleUp 2 1 (-exponent)
    if scaled % unit = 0 then some (signedInt negative (scaled / unit)) else none
  | _ => none

/-- The decimal point `index * 10 ^ exponent` that reads back as a positive value, if a neighbour of
the value on the grid of that exponent does. The ends of the rounding interval read back exactly
when the significand is even. -/
def onGrid? (significand : Nat) (exponent grid : Int) : Option Nat :=
  let unit := scaleUp 10 (scaleUp 2 1 (exponent - 2)) (-grid)
  let step := scaleUp 10 (scaleUp 2 1 (2 - exponent)) grid
  let value := 4 * significand * unit
  let low := (if significand = leastNormal ∧ leastExponent < exponent then 4 * significand - 1
    else 4 * significand - 2) * unit
  let high := (4 * significand + 2) * unit
  let readsBack (index : Nat) : Bool :=
    if significand % 2 = 0 then low ≤ index * step && index * step ≤ high
    else low < index * step && index * step < high
  let below := value / step
  if readsBack below then
    if readsBack (below + 1) then some (roundQuotient value step) else some below
  else if readsBack (below + 1) then some (below + 1)
  else none

/-- The first hit on ever finer grids, at most `tries` of them. -/
def coarsestHit (significand : Nat) (exponent : Int) : (tries : Nat) → (grid : Int) → Nat × Int
  | 0, grid => (significand, grid)
  | tries + 1, grid =>
    match onGrid? significand exponent grid with
    | some index => (index, grid)
    | none => coarsestHit significand exponent tries (grid - 1)

/-- The shortest decimal that reads back as the value of a positive significand. The search starts
at a grid that is coarser than the value. -/
def shortest (significand : Nat) (exponent : Int) : Nat × Int :=
  coarsestHit significand exponent 400 ((exponent + 54) * 30103 / 100000 + 2)

end Binary64

/-- The sign and the case-blind name of a value that is no decimal. -/
def readSpecial? (text : Text) : Option Binary64 :=
  let (negative, body) := takeSign text
  let name := body.map Char.toLower
  if name = "inf".toList ∨ name = "infinity".toList then some (.infinite negative)
  else if name = "nan".toList then some .notANumber
  else none

/-- Read a floating-point number, or the name of an infinity or of no number. -/
def readBinary64? (text : Text) : Option Binary64 := do
  let plain ← plainNumeral? text
  match readSpecial? plain with
  | some special => some special
  | none => (readDecimal? plain).map Binary64.ofDecimal

end RouteCatalog
