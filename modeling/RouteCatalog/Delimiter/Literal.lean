import RouteCatalog.Text.Basic

/-!
# String literals in running text

Whether a character of a type expression is code or part of a string literal. `Literal.feed` reads
one character; a quote that directly follows a backslash does not close its literal. The state
remembers one character and no more, so it does not tell an escaped backslash from an escaping one.
-/

namespace RouteCatalog

/-- The two marks that delimit a string literal. -/
inductive Quote where
  | single
  | double
  deriving DecidableEq, Repr

namespace Quote

/-- The character that opens and closes the literal. -/
def mark : Quote → Char
  | single => '\''
  | double => '"'

/-- The kind of literal that a character opens. -/
def ofMark? (character : Char) : Option Quote :=
  if character = '\'' then some single
  else if character = '"' then some double
  else none

@[simp]
theorem ofMark?_mark (quote : Quote) : ofMark? quote.mark = some quote := by
  cases quote <;> rfl

/-- A character opens a literal exactly when it is that literal's mark. -/
theorem ofMark?_eq_some_iff {character : Char} {quote : Quote} :
    ofMark? character = some quote ↔ character = quote.mark := by
  constructor
  · intro found
    simp only [ofMark?] at found
    split at found
    · cases found; assumption
    · split at found
      · cases found; assumption
      · cases found
  · rintro rfl
    exact ofMark?_mark quote

end Quote

/-- Where a scan stands relative to string literals. -/
structure Literal where
  /-- The mark of the literal that is open. -/
  quote : Option Quote := none
  /-- The last character read. -/
  previous : Option Char := none
  deriving DecidableEq, Repr

namespace Literal

/-- Is a literal open? -/
def isOpen (literal : Literal) : Bool :=
  literal.quote.isSome

/-- The mark that is open after one more character. -/
def quoteAfter (literal : Literal) (character : Char) : Option Quote :=
  match literal.quote with
  | some quote =>
    if character = quote.mark && literal.previous != some '\\' then none else some quote
  | none => Quote.ofMark? character

/-- Read one character. -/
def feed (literal : Literal) (character : Char) : Literal :=
  { quote := literal.quoteAfter character, previous := some character }

@[simp]
theorem feed_previous (literal : Literal) (character : Char) :
    (literal.feed character).previous = some character :=
  rfl

end Literal

end RouteCatalog
