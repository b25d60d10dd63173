import RouteCatalog.Number.Binary64

/-!
# Arithmetic of binary floating point

Sums and products of values of the 64-bit binary format: the exact result, rounded to the nearest
value. Both operations commute.
-/

namespace RouteCatalog

namespace Binary64

/-- The value nearest to `factor * 2 ^ exponent`; of a zero factor the zero with the given sign. -/
def ofScaled (zeroNegative : Bool) (factor exponent : Int) : Binary64 :=
  if factor = 0 then zero zeroNegative
  else
    ofQuotient (factor < 0) (scaleUp 2 factor.natAbs exponent) (scaleUp 2 1 (-exponent))

/-- The value with the other sign. -/
def negate : Binary64 → Binary64
  | finite negative significand exponent => finite (!negative) significand exponent
  | infinite negative => infinite (!negative)
  | notANumber => notANumber

/-- The value, negated on demand. -/
def withSign (negative : Bool) (number : Binary64) : Binary64 :=
  if negative then number.negate else number

/-- The product. -/
def mul : Binary64 → Binary64 → Binary64
  | notANumber, _ | _, notANumber => notANumber
  | infinite left, infinite right => infinite (left != right)
  | infinite left, finite right significand _ =>
    if significand = 0 then notANumber else infinite (left != right)
  | finite left significand _, infinite right =>
    if significand = 0 then notANumber else infinite (left != right)
  | finite left leftSignificand leftExponent, finite right rightSignificand rightExponent =>
    let negative := left != right
    ofScaled negative (signedInt negative (leftSignificand * rightSignificand))
      (leftExponent + rightExponent)

/-- The sum. Two opposite values make the zero without sign. -/
def add : Binary64 → Binary64 → Binary64
  | notANumber, _ | _, notANumber => notANumber
  | infinite left, infinite right => if left = right then infinite left else notANumber
  | infinite left, finite _ _ _ => infinite left
  | finite _ _ _, infinite right => infinite right
  | finite left leftSignificand leftExponent, finite right rightSignificand rightExponent =>
    let exponent := min leftExponent rightExponent
    let aligned (negative : Bool) (significand : Nat) (own : Int) : Int :=
      signedInt negative (scaleUp 2 significand (own - exponent))
    ofScaled (left && right)
      (aligned left leftSignificand leftExponent + aligned right rightSignificand rightExponent)
      exponent

/-- The order of the factors makes no difference. -/
theorem mul_comm (left right : Binary64) : left.mul right = right.mul left := by
  cases left <;> cases right <;>
    simp only [mul, bne_comm, Nat.mul_comm, Int.add_comm]

/-- The order of the terms makes no difference. -/
theorem add_comm (left right : Binary64) : left.add right = right.add left := by
  cases left <;> cases right <;> simp only [add]
  · simp only [Bool.and_comm, Int.min_comm, Int.add_comm]
  · rename_i first second
    cases first <;> cases second <;> rfl

end Binary64

end RouteCatalog
