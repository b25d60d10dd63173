import RouteCatalog.Text.Basic

/-!
# Faults of configuration texts

A text may break the rules of the format, or a scalar in it may not denote what its form or its tag
promises. The kinds of the latter are kept apart, since only the former is explained to a user.
-/

namespace RouteCatalog

namespace Yaml

/-- Why a configuration text has no value. -/
inductive Fault where
  /-- The text breaks the rules of the format. -/
  | malformed
  /-- A scalar should be a number, date or character but denotes none. -/
  | unreadable
  /-- The number of a character, or a place value of a number, is beyond what can be counted. -/
  | beyondRange
  /-- A number is empty, or has nothing but a sign. -/
  | emptyNumber
  /-- A scalar should be a yes or no but is another word, given in lower case. -/
  | unknownWord (word : Text)
  /-- A scalar should be a date or time but has not the form of one. -/
  | notMoment
  /-- A date or time is written as a mapping. -/
  | mappedMoment
  deriving DecidableEq, Repr

end Yaml

end RouteCatalog
