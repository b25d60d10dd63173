import RouteCatalog.Keyed
import RouteCatalog.Yaml.Tag
import RouteCatalog.Yaml.Token

/-!
# Nodes of a configuration text

`Graph.ofText` puts the tokens of a text together to its one document: numbered nodes that are
scalars, sequences or mappings. An alias stands for the node that was given its name before; since a
collection has its name before its parts are read, nodes may be parts of themselves. A name is given
only once. A second document is a fault.
-/

namespace RouteCatalog

namespace Yaml

/-- What a node consists of; the parts of collections are numbers of nodes. -/
inductive Content where
  | scalar (text : Text)
  | sequence (items : List Nat)
  | mapping (pairs : List (Nat × Nat))
  deriving DecidableEq, Repr

/-- A part of a document. -/
structure Node where
  tag : Tag
  content : Content
  deriving DecidableEq, Repr

/-- The node where nothing is written. -/
def Node.empty : Node :=
  { tag := .null, content := .scalar [] }

/-- Nodes by their numbers. -/
abbrev Graph := Array Node

namespace Graph

/-- The node with a number. -/
def node (graph : Graph) (number : Nat) : Node :=
  graph.getD number Node.empty

/-- The graph with another node in the place of one. -/
def put (graph : Graph) (number : Nat) (node : Node) : Graph :=
  graph.setIfInBounds number node

/-- The node that was put in a place that there is. -/
theorem node_put {graph : Graph} {number : Nat} (present : number < graph.size) (node : Node) :
    (graph.put number node).node number = node := by
  simp [Graph.node, put, Array.getD_eq_getD_getElem?, present]

end Graph

/-- What is left of the tokens, and the nodes so far. -/
structure Assembly where
  stream : TokenStream
  /-- The numbers of the nodes that have names. -/
  anchors : List (Text × Nat) := []
  graph : Graph := #[]

/-- A step of putting tokens together. -/
abbrev Assembling := StateT Assembly (Except Fault)

namespace Assembling

/-- The next token. A fault in the text counts only once all tokens before it are used up. -/
def peek : Assembling (Option Token) := do
  let stream := (← get).stream
  match stream.tokens, stream.fault? with
  | token :: _, _ => return some token
  | [], some fault => throw fault
  | [], none => return none

/-- Go past the next token. -/
def skip : Assembling Unit :=
  modify fun assembly =>
    { assembly with stream.tokens := assembly.stream.tokens.drop 1 }

/-- Go past the next token if it is the given one; tell whether it was. -/
def accept (token : Token) : Assembling Bool := do
  if (← peek) = some token then
    skip
    return true
  else return false

/-- Go past the next token, which has to be the given one. -/
def expect (token : Token) : Assembling Unit := do
  if !(← accept token) then throw .malformed

/-- Is the next token one of several? -/
def atAny (tokens : List Token) : Assembling Bool := do
  match ← peek with
  | some token => return tokens.contains token
  | none => return false

/-- The anchor and the tag before a node, in either order. -/
def properties : Assembling (Option Text × Option (Option Text × Text)) := do
  match ← peek with
  | some (.anchor name) =>
    skip
    match ← peek with
    | some (.tag handle suffix) =>
      skip
      return (some name, some (handle, suffix))
    | _ => return (some name, none)
  | some (.tag handle suffix) =>
    skip
    match ← peek with
    | some (.anchor name) =>
      skip
      return (some name, some (handle, suffix))
    | _ => return (none, some (handle, suffix))
  | _ => return (none, none)

/-- The full name of a tag for a handle and a suffix. A lone exclamation mark names no tag. -/
def tagName (handles : List (Text × Text)) :
    Option (Option Text × Text) → Assembling (Option Text)
  | none => return none
  | some (none, suffix) => return if suffix = ['!'] then none else some suffix
  | some (some handle, suffix) =>
    match firstOf? handles handle with
    | some lead => return some (lead ++ suffix)
    | none => throw .malformed

/-- A new node, which may have a name that no other has. -/
def add (name : Option Text) (node : Node) : Assembling Nat := do
  let assembly ← get
  let number := assembly.graph.size
  let anchors ←
    match name with
    | none => pure assembly.anchors
    | some name =>
      if (firstOf? assembly.anchors name).isSome then throw .malformed
      pure ((name, number) :: assembly.anchors)
  set { assembly with anchors, graph := assembly.graph.push node }
  return number

/-- A new node where nothing is written. -/
def addEmpty : Assembling Nat :=
  add none Node.empty

/-- A new collection, whose parts are read after it has got its number and its name. -/
def collect {α : Type} (name : Option Text) (tag : Tag) (make : List α → Content)
    (parts : Assembling (List α)) : Assembling Nat := do
  let number ← add name { tag, content := make [] }
  let content := make (← parts)
  modify fun assembly => { assembly with graph := assembly.graph.put number { tag, content } }
  return number

/-- What is written before a node. -/
structure Properties where
  anchor : Option Text := none
  /-- Is there a tag, be it only an exclamation mark? -/
  tagged : Bool := false
  /-- The full name of the tag. -/
  tag : Option Text := none
  deriving DecidableEq, Repr

/-- Is nothing written before the node? -/
def Properties.areAbsent (properties : Properties) : Bool :=
  properties.anchor.isNone && !properties.tagged

/-- The tag of a scalar. Without a named tag the text decides, unless the scalar is quoted and has no
exclamation mark either. -/
def Properties.scalarTag (properties : Properties) (text : Text) (plain : Bool) : Tag :=
  match properties.tag with
  | some name => Tag.ofName name
  | none => if plain || properties.tagged then Tag.ofForm text else .text

/-- The tag of a collection. -/
def Properties.collectionTag (properties : Properties) (default : Tag) : Tag :=
  (properties.tag.map Tag.ofName).getD default

/-- Where a node stands. -/
structure Place where
  /-- May it be a block collection? -/
  inBlock : Bool
  /-- May it be a sequence at the indentation of the mapping around it? -/
  indentless : Bool
  deriving DecidableEq, Repr

/-- A place inside a flow collection. -/
def flowPlace : Place := { inBlock := false, indentless := false }

/-- A place inside a block sequence, or the top of a document. -/
def blockPlace : Place := { inBlock := true, indentless := false }

/-- A place inside a block mapping. -/
def mappingPlace : Place := { inBlock := true, indentless := true }

mutual

/-- A node. -/
def node (handles : List (Text × Text)) : (fuel : Nat) → Place → Assembling Nat
  | 0, _ => throw .malformed
  | fuel + 1, place => do
    match ← peek with
    | some (.alias name) =>
      skip
      match firstOf? (← get).anchors name with
      | some number => return number
      | none => throw .malformed
    | _ =>
      let (anchor, written) ← properties
      let tag ← tagName handles written
      content handles fuel place { anchor, tagged := written.isSome, tag }

/-- What follows the anchor and the tag of a node. -/
def content (handles : List (Text × Text)) : (fuel : Nat) → Place → Properties → Assembling Nat
  | 0, _, _ => throw .malformed
  | fuel + 1, place, properties => do
    let collection {α : Type} (default : Tag) (make : List α → Content)
        (parts : Assembling (List α)) : Assembling Nat :=
      collect properties.anchor (properties.collectionTag default) make parts
    let opened {α : Type} (parts : Assembling (List α)) : Assembling (List α) := do
      skip
      parts
    match ← peek with
    | some (.scalar text plain) =>
      skip
      add properties.anchor
        { tag := properties.scalarTag text plain, content := .scalar text }
    | some .flowSequenceStart =>
      collection .list .sequence (opened (flowItems handles fuel true))
    | some .flowMappingStart =>
      collection .mapping .mapping (opened (flowPairs handles fuel true))
    | next =>
      if next = some .blockEntry ∧ place.indentless then
        collection .list .sequence (indentlessItems handles fuel)
      else if next = some .blockSequenceStart ∧ place.inBlock then
        collection .list .sequence (opened (blockItems handles fuel))
      else if next = some .blockMappingStart ∧ place.inBlock then
        collection .mapping .mapping (opened (blockPairs handles fuel))
      else if properties.areAbsent then throw .malformed
      else
        add properties.anchor { tag := properties.scalarTag [] true, content := .scalar [] }

/-- The items of a block sequence. -/
def blockItems (handles : List (Text × Text)) : (fuel : Nat) → Assembling (List Nat)
  | 0 => throw .malformed
  | fuel + 1 => do
    if ← accept .blockEntry then
      let item ←
        if ← atAny [.blockEntry, .blockEnd] then addEmpty else node handles fuel blockPlace
      return item :: (← blockItems handles fuel)
    else
      expect .blockEnd
      return []

/-- The items of a sequence at the indentation of the mapping around it. -/
def indentlessItems (handles : List (Text × Text)) : (fuel : Nat) → Assembling (List Nat)
  | 0 => throw .malformed
  | fuel + 1 => do
    if ← accept .blockEntry then
      let item ←
        if ← atAny [.blockEntry, .key, .value, .blockEnd] then addEmpty
        else node handles fuel blockPlace
      return item :: (← indentlessItems handles fuel)
    else return []

/-- The pairs of a block mapping. -/
def blockPairs (handles : List (Text × Text)) : (fuel : Nat) → Assembling (List (Nat × Nat))
  | 0 => throw .malformed
  | fuel + 1 => do
    if ← accept .key then
      let key ←
        if ← atAny [.key, .value, .blockEnd] then addEmpty
        else node handles fuel mappingPlace
      let value ← blockValue handles fuel
      return (key, value) :: (← blockPairs handles fuel)
    else
      expect .blockEnd
      return []

/-- The value of a pair of a block mapping. -/
def blockValue (handles : List (Text × Text)) : (fuel : Nat) → Assembling Nat
  | 0 => throw .malformed
  | fuel + 1 => do
    if ← accept .value then
      if ← atAny [.key, .value, .blockEnd] then addEmpty
      else node handles fuel mappingPlace
    else addEmpty

/-- The items of a flow sequence. A pair in it is a mapping with one pair. -/
def flowItems (handles : List (Text × Text)) : (fuel : Nat) → (first : Bool) →
    Assembling (List Nat)
  | 0, _ => throw .malformed
  | fuel + 1, first => do
    if ← accept .flowSequenceEnd then return []
    else
      if !first then expect .flowEntry
      if ← accept .key then
        let key ←
          if ← atAny [.value, .flowEntry, .flowSequenceEnd] then addEmpty
          else node handles fuel flowPlace
        let value ← flowValue handles fuel .flowSequenceEnd
        let pair ← add none { tag := .mapping, content := .mapping [(key, value)] }
        return pair :: (← flowItems handles fuel false)
      else if ← accept .flowSequenceEnd then return []
      else
        let item ← node handles fuel flowPlace
        return item :: (← flowItems handles fuel false)

/-- The pairs of a flow mapping. -/
def flowPairs (handles : List (Text × Text)) : (fuel : Nat) → (first : Bool) →
    Assembling (List (Nat × Nat))
  | 0, _ => throw .malformed
  | fuel + 1, first => do
    if ← accept .flowMappingEnd then return []
    else
      if !first then expect .flowEntry
      if ← accept .key then
        let key ←
          if ← atAny [.value, .flowEntry, .flowMappingEnd] then addEmpty
          else node handles fuel flowPlace
        let value ← flowValue handles fuel .flowMappingEnd
        return (key, value) :: (← flowPairs handles fuel false)
      else if ← accept .flowMappingEnd then return []
      else
        let key ← node handles fuel flowPlace
        let value ← addEmpty
        return (key, value) :: (← flowPairs handles fuel false)

/-- The value of a pair of a flow collection that ends with the given token. -/
def flowValue (handles : List (Text × Text)) : (fuel : Nat) → (closing : Token) → Assembling Nat
  | 0, _ => throw .malformed
  | fuel + 1, closing => do
    if ← accept .value then
      if ← atAny [.flowEntry, closing] then addEmpty else node handles fuel flowPlace
    else addEmpty

end

/-- The handles that every document has. -/
def standardHandles : List (Text × Text) := [
  (['!'], ['!']),
  (['!', '!'], "tag:yaml.org,2002:".toList)]

/-- The directives of a document: at most one version, of the first major number, and each handle
at most once. The answer is the handles. -/
def directives : (fuel : Nat) → (versioned : Bool) → (declared : List (Text × Text)) →
    Assembling (List (Text × Text))
  | 0, _, declared => return declared
  | fuel + 1, versioned, declared => do
    match ← peek with
    | some (.versionDirective major) =>
      if versioned ∨ (major.dropWhile (· = '0')) ≠ ['1'] then throw .malformed
      skip
      directives fuel true declared
    | some (.tagDirective handle lead) =>
      if (firstOf? declared handle).isSome then throw .malformed
      skip
      directives fuel versioned ((handle, lead) :: declared)
    | some .otherDirective =>
      skip
      directives fuel versioned declared
    | _ => return declared

/-- Go past marks that end a document. -/
def skipDocumentEnds : (fuel : Nat) → Assembling Unit
  | 0 => return ()
  | fuel + 1 => do
    if ← accept .documentEnd then skipDocumentEnds fuel

/-- Is the next token a directive? -/
def atDirective : Assembling Bool := do
  match ← peek with
  | some (.versionDirective _) | some (.tagDirective _ _) | some .otherDirective => return true
  | _ => return false

/-- The number of the root of the one document; none if there are no tokens. -/
def document (fuel : Nat) : Assembling (Option Nat) := do
  match ← peek with
  | none => return none
  | some first =>
    let explicit := first = .documentStart || (← atDirective)
    let declared ← directives fuel false []
    if explicit then expect .documentStart
    let blank ← (do
      match ← peek with
      | none => return true
      | some .documentStart | some .documentEnd => return explicit
      | some _ => return explicit && (← atDirective))
    let root ← if blank then addEmpty else node (declared ++ standardHandles) fuel blockPlace
    skipDocumentEnds fuel
    match ← peek with
    | none => return some root
    | some _ =>
      discard (directives fuel false [])
      throw .malformed

end Assembling

/-- The one document of a text, with the number of its root; none if the text is empty but for
comments. -/
def Graph.ofText (text : Text) : Except Fault (Option (Nat × Graph)) := do
  let stream := TokenStream.ofText text
  let (root?, assembly) ← (Assembling.document (4 * stream.tokens.length + 8)).run { stream }
  return root?.map fun root => (root, assembly.graph)

end Yaml

end RouteCatalog
