import RouteCatalog.Text.Basic

/-!
# Decimal digits

Decimal digits of every script. Each script has its ten digits side by side, so the table holds
the code points of the zeros.
-/

namespace RouteCatalog

/-- The code points of the zeros outside ASCII, in increasing order. -/
def digitZeros : List Nat := [
    1632, 1776, 1984, 2406, 2534, 2662, 2790, 2918, 3046, 3174, 3302, 3430, 3558, 3664, 3792,
    3872, 4160, 4240, 6112, 6160, 6470, 6608, 6784, 6800, 6992, 7088, 7232, 7248, 42528, 43216,
    43264, 43472, 43504, 43600, 44016, 65296, 66720, 68912, 69734, 69872, 69942, 70096, 70384,
    70736, 70864, 71248, 71360, 71472, 71904, 72016, 72784, 73040, 73120, 92768, 92864, 93008,
    120782, 120792, 120802, 120812, 120822, 123200, 123632, 125264, 130032]

/-- The value of a decimal digit of any script. -/
def digitValue? (character : Char) : Option Nat :=
  let code := character.toNat
  if code < 128 then
    if 48 ≤ code && code ≤ 57 then some (code - 48) else none
  else
    (digitZeros.find? fun origin => origin ≤ code && code < origin + 10).map (code - ·)

/-- Is the character a decimal digit of some script? -/
def isDigit (character : Char) : Bool :=
  (digitValue? character).isSome

/-- The number that a run of digits denotes, the first digit being the most significant. -/
def digitsValue (digits : List Nat) : Nat :=
  digits.foldl (fun total digit => 10 * total + digit) 0

/-- A digit stands for a number below ten. -/
theorem digitValue?_lt {character : Char} {value : Nat}
    (digit : digitValue? character = some value) : value < 10 := by
  simp only [digitValue?] at digit
  split at digit
  · split at digit
    · rename_i range
      simp only [Bool.and_eq_true, decide_eq_true_eq] at range
      cases digit
      omega
    · cases digit
  · obtain ⟨origin, found, rfl⟩ := Option.map_eq_some_iff.mp digit
    have range := List.find?_some found
    simp only [Bool.and_eq_true, decide_eq_true_eq] at range
    omega

end RouteCatalog
