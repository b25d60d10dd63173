import RouteCatalog.Yaml.Collection

/-!
# Documents

`Yaml.read` gives what a configuration text says, down to a depth. A text in which a collection is
part of itself says something at every depth, so there is no reading it to the end.
-/

namespace RouteCatalog

namespace Yaml

/-- May the character occur in a configuration text? -/
def isAllowed (character : Char) : Bool :=
  let code := character.toNat
  code == 9 || code == 10 || code == 13 || (0x20 ≤ code && code ≤ 0x7e) || code == 0x85 ||
    (0xa0 ≤ code && code ≤ 0xfffd) || 0x10000 ≤ code

/-- What a configuration text says, down to a depth; an empty one says nothing. -/
def read (depth : Nat) (text : Text) : Except Fault Datum := do
  if !text.all isAllowed then throw .malformed
  match ← Graph.ofText text with
  | none => return .null
  | some (root, graph) => graph.denotation root depth

end Yaml

end RouteCatalog
