import RouteCatalog.Keyed
import RouteCatalog.Number.Binary64

/-!
# Values

The values that a handler's literal, a catalog document or an example payload may hold. A record is
its list of keys and values in order. `settled` leaves each key of every record once, at its first
place and with its last value.
-/

namespace RouteCatalog

/-- A dynamic value. -/
inductive Value where
  | null
  | bool (flag : Bool)
  | int (number : Int)
  | float (number : Binary64)
  | text (characters : Text)
  | list (items : List Value)
  | record (entries : List (Text × Value))
  deriving Repr, Inhabited

namespace Value

mutual

/-- Equality of values is decidable. -/
def decideEq : (left right : Value) → Decidable (left = right)
  | .null, .null => isTrue rfl
  | .bool left, .bool right => decidable_of_iff (left = right) (by simp)
  | .int left, .int right => decidable_of_iff (left = right) (by simp)
  | .float left, .float right => decidable_of_iff (left = right) (by simp)
  | .text left, .text right => decidable_of_iff (left = right) (by simp)
  | .list left, .list right =>
    have := decideItemsEq left right
    decidable_of_iff (left = right) (by simp)
  | .record left, .record right =>
    have := decideEntriesEq left right
    decidable_of_iff (left = right) (by simp)
  | .null, .bool _ | .null, .int _ | .null, .float _ | .null, .text _ | .null, .list _
  | .null, .record _ | .bool _, .null | .bool _, .int _ | .bool _, .float _ | .bool _, .text _
  | .bool _, .list _ | .bool _, .record _ | .int _, .null | .int _, .bool _ | .int _, .float _
  | .int _, .text _ | .int _, .list _ | .int _, .record _ | .float _, .null | .float _, .bool _
  | .float _, .int _ | .float _, .text _ | .float _, .list _ | .float _, .record _
  | .text _, .null | .text _, .bool _ | .text _, .int _ | .text _, .float _ | .text _, .list _
  | .text _, .record _ | .list _, .null | .list _, .bool _ | .list _, .int _ | .list _, .float _
  | .list _, .text _ | .list _, .record _ | .record _, .null | .record _, .bool _
  | .record _, .int _ | .record _, .float _ | .record _, .text _ | .record _, .list _ =>
    isFalse (by simp)

/-- Equality of lists of values is decidable. -/
def decideItemsEq : (left right : List Value) → Decidable (left = right)
  | [], [] => isTrue rfl
  | [], _ :: _ | _ :: _, [] => isFalse (by simp)
  | left :: lefts, right :: rights =>
    have := decideEq left right
    have := decideItemsEq lefts rights
    decidable_of_iff (left = right ∧ lefts = rights) (by simp)

/-- Equality of the entries of records is decidable. -/
def decideEntriesEq : (left right : List (Text × Value)) → Decidable (left = right)
  | [], [] => isTrue rfl
  | [], _ :: _ | _ :: _, [] => isFalse (by simp)
  | (leftKey, left) :: lefts, (rightKey, right) :: rights =>
    have := decideEq left right
    have := decideEntriesEq lefts rights
    decidable_of_iff ((leftKey = rightKey ∧ left = right) ∧ lefts = rights) (by simp)

end

instance : DecidableEq Value := decideEq

/-- Does the value count as a yes? Null, false, zeros and empty values do not. -/
def isTruthy : Value → Bool
  | .null => false
  | .bool flag => flag
  | .int number => number != 0
  | .float number => !number.isZero
  | .text characters => !characters.isEmpty
  | .list items => !items.isEmpty
  | .record entries => !entries.isEmpty

mutual

/-- The value with every record collapsed to one entry for each key. -/
def settled : Value → Value
  | .list items => .list (settledItems items)
  | .record entries => .record (collapse (settledEntries entries))
  | other => other

/-- The items, each settled. -/
def settledItems : List Value → List Value
  | [] => []
  | item :: rest => item.settled :: settledItems rest

/-- The entries, each value settled. -/
def settledEntries : List (Text × Value) → List (Text × Value)
  | [] => []
  | (key, value) :: rest => (key, value.settled) :: settledEntries rest

end

end Value

end RouteCatalog
