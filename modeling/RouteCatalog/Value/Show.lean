import RouteCatalog.Number.Notation
import RouteCatalog.Text.Quoted
import RouteCatalog.Value

/-!
# Values in descriptions

A value is shown as a literal: texts in quotes, lists in brackets and records in braces.
-/

namespace RouteCatalog

namespace Value

mutual

/-- The value as a literal. -/
def shown : Value → Text
  | .null => "None".toList
  | .bool true => "True".toList
  | .bool false => "False".toList
  | .int number => intText number
  | .float number => displayNotation.write number
  | .text characters => characters.quoted
  | .list items => '[' :: Text.join ", ".toList (shownItems items) ++ [']']
  | .record entries => '{' :: Text.join ", ".toList (shownEntries entries) ++ ['}']

/-- Each item as a literal. -/
def shownItems : List Value → List Text
  | [] => []
  | item :: rest => item.shown :: shownItems rest

/-- Each entry as a key and a value. -/
def shownEntries : List (Text × Value) → List Text
  | [] => []
  | (key, value) :: rest => (key.quoted ++ ": ".toList ++ value.shown) :: shownEntries rest

end

/-- The value as plain text: a text as it is, everything else as a literal. -/
def plain : Value → Text
  | .text characters => characters
  | other => other.shown

end Value

end RouteCatalog
