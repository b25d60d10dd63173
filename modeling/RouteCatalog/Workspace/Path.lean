import RouteCatalog.Text.Basic

/-!
# Paths

A path is the sequence of its names after an optional root. Empty names and single dots vanish when
a text is read as a path; two dots stay, since what they mean depends on the files. The empty path
is written as a single dot.
-/

namespace RouteCatalog

/-- A path to a file or folder. -/
structure Path where
  /-- The slashes at the beginning: none, one, or exactly two. -/
  root : Nat := 0
  names : List Text := []
  deriving DecidableEq, Repr

namespace Path

/-- Read a text as a path. Three or more leading slashes are one. -/
def ofText (text : Text) : Path :=
  let slashes := (text.takeWhile (· = '/')).length
  { root := if slashes = 2 then 2 else min slashes 1
    names := (text.pieces '/').filter fun name => name ≠ [] ∧ name ≠ ['.'] }

/-- A plain name is the path to it. -/
theorem ofText_of_plain {name : Text} (nonempty : name ≠ []) (plain : '/' ∉ name)
    (notDot : name ≠ ['.']) : ofText name = { names := [name] } := by
  obtain ⟨first, rest, rfl⟩ := List.exists_cons_of_ne_nil nonempty
  have noSlash : first ≠ '/' := fun equal => plain (by simp [equal])
  simp [ofText, Text.pieces_of_not_mem plain, noSlash, notDot]

/-- Does the path start at the root of all files? -/
def isAbsolute (path : Path) : Bool :=
  path.root != 0

/-- The path as text. -/
def text (path : Path) : Text :=
  if path.root = 0 ∧ path.names.isEmpty then ['.']
  else List.replicate path.root '/' ++ Text.join ['/'] path.names

/-- The last name, empty if there is none. -/
def name (path : Path) : Text :=
  path.names.getLast?.getD []

/-- The path without its last name. -/
def parent (path : Path) : Path :=
  { path with names := path.names.dropLast }

/-- The path to something inside a folder; an absolute path stays as it is. -/
def join (folder inside : Path) : Path :=
  if inside.isAbsolute then inside else { folder with names := folder.names ++ inside.names }

/-- The path to something inside a folder, given as text. -/
def child (folder : Path) (inside : Text) : Path :=
  folder.join (ofText inside)

end Path

end RouteCatalog
