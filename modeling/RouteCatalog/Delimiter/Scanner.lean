import RouteCatalog.Delimiter.Literal
import RouteCatalog.Delimiter.Nesting

/-!
# Scanning text for its top level

A `Scanner` reads type expressions character by character and knows, before each character,
whether it is at top level: outside every string literal and every group. Delimiters inside a
literal do not count.
-/

namespace RouteCatalog

/-- What has been seen of a text: the string literal and the groups that are open. -/
structure Scanner where
  literal : Literal := {}
  nesting : Nesting := {}
  deriving DecidableEq, Repr

namespace Scanner

/-- The scanner that has read nothing. -/
def start : Scanner := {}

/-- Is the next character inside a string literal, or the mark that closes one? -/
def inString (scanner : Scanner) : Bool :=
  scanner.literal.isOpen

/-- The number of open groups. -/
def depth (scanner : Scanner) : Nat :=
  scanner.nesting.depth

/-- Is the next character outside every literal and every group? -/
def atTopLevel (scanner : Scanner) : Bool :=
  !scanner.inString && scanner.depth == 0

/-- Read one character. -/
def feed (scanner : Scanner) (character : Char) : Scanner where
  literal := scanner.literal.feed character
  nesting := if scanner.inString then scanner.nesting else scanner.nesting.feed character

/-- Read a whole text. -/
def scan (scanner : Scanner) (text : Text) : Scanner :=
  text.foldl feed scanner

@[simp]
theorem scan_nil (scanner : Scanner) : scanner.scan [] = scanner :=
  rfl

@[simp]
theorem scan_cons (scanner : Scanner) (character : Char) (rest : Text) :
    scanner.scan (character :: rest) = (scanner.feed character).scan rest :=
  rfl

/-- Reading two texts one after the other reads their concatenation. -/
theorem scan_append (scanner : Scanner) (front back : Text) :
    scanner.scan (front ++ back) = (scanner.scan front).scan back := by
  simp [scan, List.foldl_append]

/-- The states after each character of a text. -/
def states (scanner : Scanner) : Text → List Scanner
  | [] => []
  | character :: rest => scanner.feed character :: (scanner.feed character).states rest

/-- There is one state for each character. -/
@[simp]
theorem length_states (scanner : Scanner) (text : Text) :
    (scanner.states text).length = text.length := by
  induction text generalizing scanner with
  | nil => rfl
  | cons character rest inductionHypothesis => simp [states, inductionHypothesis]

end Scanner

end RouteCatalog
