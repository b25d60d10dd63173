import RouteCatalog.Text.Basic

/-!
# Sources of randomness

A source answers two questions: a natural number below a bound, and a fraction of one. Everything
that sampling asks is put in these terms. The law of a source is that its numbers respect their
bounds, so whatever is chosen from a list is in the list.
-/

namespace RouteCatalog

/-- A non-negative rational number. -/
structure Fraction where
  numerator : Nat
  denominator : Nat
  deriving DecidableEq, Repr

namespace Fraction

/-- Is the first fraction less than the second? -/
def lessThan (left right : Fraction) : Bool :=
  left.numerator * right.denominator < right.numerator * left.denominator

end Fraction

/-- A source of random numbers. -/
structure RandomSource where
  State : Type
  /-- A number below a positive bound. -/
  below : Nat → State → Nat × State
  /-- A fraction of one. -/
  fraction : State → Fraction × State
  below_lt : ∀ bound state, 0 < bound → (below bound state).1 < bound

/-- What sampling asks of its source. -/
inductive RandomRequest where
  /-- One of several texts. -/
  | choice (candidates : List Text)
  /-- A number from `low` to `high`, both included. -/
  | between (low high : Nat)
  /-- A number below a bound. -/
  | below (bound : Nat)
  /-- A fraction of one. -/
  | fraction
  deriving DecidableEq, Repr

/-- Numbers given in advance, used in turn and from the beginning again after the last. -/
structure Script where
  draws : Array Nat
  position : Nat := 0
  deriving DecidableEq, Repr

namespace Script

/-- The next number, zero if there are none. -/
def next (script : Script) : Nat × Script :=
  let size := script.draws.size
  (script.draws.getD (script.position % size) 0,
    { script with position := if size = 0 then 0 else (script.position + 1) % size })

/-- A source that follows a script: numbers below a bound are remainders, and a fraction is a number
of thousandths. -/
def source : RandomSource where
  State := Script
  below bound script :=
    let (draw, script) := script.next
    (draw % bound, script)
  fraction script :=
    let (draw, script) := script.next
    ({ numerator := draw % 1000, denominator := 1000 }, script)
  below_lt _ _ positive := Nat.mod_lt _ positive

end Script

end RouteCatalog
