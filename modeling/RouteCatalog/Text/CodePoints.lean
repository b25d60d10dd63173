/-!
# Classes of code points

A class of characters that follows a table of a character standard is written down once, as the
increasing code points at which membership changes. The class starts with nothing in it.
-/

namespace RouteCatalog

/-- A class of characters, by the increasing code points at which membership changes. -/
structure CodePoints where
  changes : List Nat

/-- Is the character in the class? Membership has changed an odd number of times up to it. -/
def CodePoints.contains (points : CodePoints) (character : Char) : Bool :=
  (points.changes.takeWhile (· ≤ character.toNat)).length % 2 == 1

end RouteCatalog
