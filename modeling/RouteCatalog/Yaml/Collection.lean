import RouteCatalog.Yaml.Node
import RouteCatalog.Yaml.Reading

/-!
# Collections of a document

What the nodes of a document denote. Atoms are read at once; a collection is at first only the number
of its node and gets its parts later, in the order in which collections are met, so that a collection
may be part of itself. The merge key takes over the pairs of the mappings that are its value; they
stand before the pairs of the mapping itself, so that those win.
-/

namespace RouteCatalog

namespace Yaml

/-- A datum, or the number of the node that denotes a collection. -/
inductive Piece where
  | atom (value : Atom)
  | collection (number : Nat)
  deriving DecidableEq, Repr, Inhabited

/-- The parts of a collection. -/
inductive Collection where
  | list (items : List Piece)
  /-- A list whose items are pairs. -/
  | pairs (pairs : List (Piece × Piece))
  | set (members : List Piece)
  | mapping (pairs : List (Piece × Piece))
  deriving DecidableEq, Repr

/-- What is known so far of what the nodes denote. -/
structure Construction where
  graph : Graph
  /-- What nodes denote, by their numbers. -/
  built : List (Nat × Piece) := []
  /-- The collections that wait for their parts, the longest waiting first. -/
  waiting : List Nat := []
  /-- The collections that have their parts. -/
  filled : List (Nat × Collection) := []

/-- Is the tag one of a collection? -/
def Tag.isCollection : Tag → Bool
  | list | mapping | set | pairs => true
  | _ => false

namespace Graph

/-- Has the node the tag? -/
def hasTag (graph : Graph) (tag : Tag) (number : Nat) : Bool :=
  (graph.node number).tag == tag

/-- The pairs of a node, none if it is no mapping. -/
def pairs? (graph : Graph) (number : Nat) : Option (List (Nat × Nat)) :=
  match (graph.node number).content with
  | .mapping pairs => some pairs
  | _ => none

/-- The number of pairs of all nodes. -/
def pairCount (graph : Graph) : Nat :=
  ((List.range graph.size).flatMap fun number => (graph.pairs? number).getD []).length

/-- The text of a scalar. A mapping may stand for one: the value of its special key then does. -/
def scalarText (graph : Graph) : (fuel : Nat) → (number : Nat) → Except Fault Text
  | 0, _ => .error .malformed
  | fuel + 1, number =>
    match (graph.node number).content with
    | .scalar text => .ok text
    | .sequence _ => .error .malformed
    | .mapping pairs =>
      match pairs.find? fun pair => graph.hasTag .whole pair.1 with
      | some (_, value) => graph.scalarText fuel value
      | none => .error .malformed

/-- The atom that a node denotes. -/
def atom (graph : Graph) (number : Nat) : Except Fault Atom := do
  let text ← graph.scalarText (graph.size + 1) number
  let tag := (graph.node number).tag
  if tag = .moment ∧ (graph.pairs? number).isSome then throw .mappedMoment
  Atom.read tag text

/-- The graph with other pairs for a mapping. -/
def putPairs (graph : Graph) (number : Nat) (pairs : List (Nat × Nat)) : Graph :=
  graph.put number { graph.node number with content := .mapping pairs }

/-- The graph in which a special key is no longer one for the mapping as a whole, but text. -/
def demoteKey (graph : Graph) (key : Nat) : Graph :=
  if graph.hasTag .whole key then graph.put key { graph.node key with tag := .text } else graph

/-- Resolve the merge keys of a mapping, one after the other. The pairs taken over so far are
`taken`. Every merge key takes one unit of fuel, and no mapping gets new ones. -/
def flatten : (fuel : Nat) → (taken : List (Nat × Nat)) → (number : Nat) → Graph →
    Except Fault Graph
  | 0, _, _, _ => .error .malformed
  | fuel + 1, taken, number, graph => do
    let pairs := (graph.pairs? number).getD []
    match pairs.find? fun pair => graph.hasTag .merge pair.1 with
    | none =>
      let graph := graph.putPairs number (taken ++ pairs)
      return pairs.foldl (fun graph pair => graph.demoteKey pair.1) graph
    | some (key, value) =>
      let graph := graph.putPairs number (pairs.erase (key, value))
      let mappings ←
        match (graph.node value).content with
        | .mapping _ => pure [value]
        | .sequence items => pure items
        | .scalar _ => throw .malformed
      let (merged, graph) ← mappings.foldlM (fun (merged, graph) mapping => do
        if (graph.pairs? mapping).isNone then throw Fault.malformed
        let graph ← flatten fuel [] mapping graph
        return ((graph.pairs? mapping).getD [] ++ merged, graph)) ([], graph)
      flatten fuel (taken ++ merged) number graph

end Graph

/-- A step of finding out what nodes denote. -/
abbrev Constructing := StateT Construction (Except Fault)

namespace Constructing

/-- What a node denotes. -/
def build (number : Nat) : Constructing Piece := do
  let state ← get
  match state.built.lookup number with
  | some piece => return piece
  | none =>
    if (state.graph.node number).tag.isCollection then
      let piece := Piece.collection number
      set { state with
        built := (number, piece) :: state.built
        waiting := state.waiting ++ [number] }
      return piece
    else
      let piece := Piece.atom (← state.graph.atom number)
      set { state with built := (number, piece) :: state.built }
      return piece

/-- What the pairs of a mapping denote, the keys with the numbers of their nodes. Collections are no
keys. -/
def buildPairs (pairs : List (Nat × Nat)) : Constructing (List ((Nat × Atom) × Piece)) :=
  pairs.mapM fun (keyNumber, value) => do
    match ← build keyNumber with
    | .collection _ => throw .malformed
    | .atom key => return ((keyNumber, key), ← build value)

/-- The pairs of a mapping after its merge keys are resolved. -/
def flattenedPairs (number : Nat) : Constructing (List ((Nat × Atom) × Piece)) := do
  let state ← get
  let graph ← Graph.flatten (state.graph.pairCount + 1) [] number state.graph
  set { state with graph }
  buildPairs ((graph.pairs? number).getD [])

/-- What the one pair of a mapping denotes. Its key may be anything. -/
def buildPair (number : Nat) : Constructing (Piece × Piece) := do
  match (← get).graph.pairs? number with
  | some [(key, value)] =>
    let key ← build key
    return (key, ← build value)
  | _ => throw .malformed

/-- Keys with each atom once. The keys of one node always count as one. -/
def distinctKeys (keys : List (Nat × Atom)) : List (Nat × Atom) :=
  (keys.foldl (fun distinct key =>
    if distinct.any fun known => known.1 == key.1 || known.2.isSame key.2 then distinct
    else key :: distinct) []).reverse

/-- The parts of a collection. The node has to be of the kind that its tag says. -/
def parts (number : Nat) : Constructing Collection := do
  let node := (← get).graph.node number
  match node.tag, node.content with
  | .list, .sequence items => return .list (← items.mapM build)
  | .pairs, .sequence items => return .pairs (← items.mapM buildPair)
  | .mapping, .mapping _ =>
    return .mapping ((← flattenedPairs number).map fun (key, value) => (.atom key.2, value))
  | .set, .mapping _ =>
    return .set ((distinctKeys ((← flattenedPairs number).map Prod.fst)).map fun key => .atom key.2)
  | _, _ => throw .malformed

/-- Give every collection its parts. Each waits only once. -/
def fillAll : (fuel : Nat) → Constructing Unit
  | 0 => return ()
  | fuel + 1 => do
    match (← get).waiting with
    | [] => return ()
    | number :: rest =>
      modify fun state => { state with waiting := rest }
      let collection ← parts number
      modify fun state => { state with filled := (number, collection) :: state.filled }
      fillAll fuel

end Constructing

/-- What a piece denotes, down to a depth: a collection below it is an empty list. -/
def Piece.unfold (filled : List (Nat × Collection)) : (depth : Nat) → Piece → Datum
  | _, .atom value => .atom value
  | 0, .collection _ => .list []
  | depth + 1, .collection number =>
    let each := Piece.unfold filled depth
    match filled.lookup number with
    | some (.list items) => .list (items.map each)
    | some (.pairs pairs) => .list (pairs.map fun (key, value) => .list [each key, each value])
    | some (.set members) => .set (members.map each)
    | some (.mapping pairs) => .mapping (pairs.map fun (key, value) => (each key, each value))
    | none => .list []

/-- What the root of a graph denotes, down to a depth. -/
def Graph.denotation (graph : Graph) (root depth : Nat) : Except Fault Datum := do
  let constructing : Constructing Piece := do
    let piece ← Constructing.build root
    Constructing.fillAll (graph.size + 1)
    return piece
  let (piece, state) ← constructing.run { graph }
  return piece.unfold state.filled depth

end Yaml

end RouteCatalog
