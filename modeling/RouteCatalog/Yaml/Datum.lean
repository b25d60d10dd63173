import RouteCatalog.Number.Binary64
import RouteCatalog.Text.Utf8
import RouteCatalog.Yaml.Moment

/-!
# Data

What a configuration text says. Unlike the values of a catalog, the keys of a mapping may be any
atoms, and there are moments, bytes and sets. A mapping keeps its pairs in order; of several pairs
with one key the last counts.
-/

namespace RouteCatalog

namespace Yaml

/-- A datum without parts. -/
inductive Atom where
  | null
  | bool (flag : Bool)
  | int (number : Int)
  | float (number : Binary64)
  | moment (moment : Moment)
  | text (characters : Text)
  | bytes (bytes : List UInt8)
  deriving DecidableEq, Repr, Inhabited

namespace Atom

/-- The integer that a yes or no, an integer or a number without fraction is. -/
def integer? : Atom → Option Int
  | bool flag => some (if flag then 1 else 0)
  | int number => some number
  | float number => number.toInt?
  | _ => none

/-- Do two atoms count as one? Equal numbers do, whatever their kinds, and what is no number does not
even count as one with itself. -/
def isSame (first second : Atom) : Bool :=
  match first.integer?, second.integer? with
  | some first, some second => first == second
  | none, none =>
    match first, second with
    | moment first, moment second => first.isSame second
    | _, _ => first == second && first != .float .notANumber
  | _, _ => false

end Atom

/-- A part of a configuration. -/
inductive Datum where
  | atom (value : Atom)
  | list (items : List Datum)
  /-- The members in the order in which they are written, each once. -/
  | set (members : List Datum)
  | mapping (pairs : List (Datum × Datum))
  deriving Repr, Inhabited

namespace Datum

/-- A text as a datum. -/
@[match_pattern] abbrev text (characters : Text) : Datum :=
  .atom (.text characters)

/-- Nothing as a datum. -/
@[match_pattern] abbrev null : Datum :=
  .atom .null

end Datum

end Yaml

end RouteCatalog
