import RouteCatalog.Proofs.Registry.Reading

/-!
# Reading a written registry

A file with a written registry gives back what its type maps declare (`extractCatalog_written`). The
body of each interface is found in the whole source (`interfaceBody_written`), and its signatures
are grouped under their pages. `unwritableMaps` has a type map for every kind of condition on the
texts.
-/

namespace RouteCatalog

section Bodies

variable {σ : Type} [SignatureForm σ] {name text : Text} {tokens : List Text}

/-- The body of a written interface is what stands in its braces. -/
theorem interfaceBody_written {inside : List Text} (isWordText : IsWordText name)
    (balanced : Balanced inside)
    (spaced : Spaced (interfaceWords name ++ ['{'] :: (inside ++ ['}'] :: tokens)) text) :
    Spaced inside (interfaceBody name text) := by
  have words := isWordText_of_mem_interfaceWords isWordText
  obtain ⟨behind, read, spacedBlock⟩ := afterWords?_spaced interfaceWords_ne_nil words spaced
  cases spacedBlock with
  | @token gap _ rest _ blank _ spacedRest =>
    obtain ⟨body, after, rfl, spacedBody, -, -⟩ := spacedRest.split
    have start : Text.trimStart (gap ++ ['{'] ++ (body ++ ['}'] ++ after)) =
        '{' :: (body ++ '}' :: after) := by
      rw [List.append_assoc, Text.trimStart_append_of_blank blank]
      simpa using Text.trimStart_cons_of_not_blank (by decide)
    have opened := atInterfaceBody?_eq_some_iff.mpr ⟨_, _, read, start, rfl⟩
    have found : Text.firstMatch (atInterfaceBody? name) text =
        some ('{' :: (body ++ '}' :: after)) := by
      rw [firstMatch_trimStart fun character rest => atInterfaceBody?_of_blank isWordText]
      exact firstMatch_of_reader opened
    have interior : interior? ('{' :: (body ++ '}' :: after)) = some body :=
      interior?_group .brace (spacedBody.closed balanced)
    rw [interfaceBody, found]
    simpa only [interior, Option.getD_some] using spacedBody

end Bodies

section Catalog

variable {api : TypeMap EndpointShapes} {sync : TypeMap BroadcastShapes} {source : Text}

/-- The tokens of a registry stay as they are. -/
theorem source_registryTokens (writableApi : api.IsWritable) (writableSync : sync.IsWritable) :
    SourceTokens (registryTokens api sync) := by
  have words : ∀ word ∈ ["export", "interface", "ApiTypeMap", "SyncTypeMap"],
      IsWordText word.toList := by decide
  have interface : ∀ {name : Text} {inside : List Text}, IsWordText name → SourceTokens inside →
      SourceTokens (interfaceWords name ++ (['{'] :: (inside ++ [['}']]))) := by
    intro name inside isWordText source
    refine SourceTokens.append (fun word member => ?_) source.braces
    exact (isWordText_of_mem_interfaceWords isWordText word member).isSourceToken
  exact (interface (words "ApiTypeMap" (by simp)) writableApi.source).append
    (interface (words "SyncTypeMap" (by simp)) writableSync.source)

/-- The bodies of both interfaces are found in a written registry. -/
theorem interfaceBodies_written (writableApi : api.IsWritable) (writableSync : sync.IsWritable)
    (silent : IsSilent "SyncTypeMap".toList api.bodyTokens)
    (spaced : Spaced (registryTokens api sync) source) :
    Spaced api.bodyTokens (interfaceBody "ApiTypeMap".toList source) ∧
      Spaced sync.bodyTokens (interfaceBody "SyncTypeMap".toList source) := by
  have words : IsWordText "ApiTypeMap".toList ∧ IsWordText "SyncTypeMap".toList := by decide
  have tokens : registryTokens api sync = interfaceWords "ApiTypeMap".toList ++
      ['{'] :: (api.bodyTokens ++ ['}'] :: sync.tokens "SyncTypeMap".toList) := by
    simp [registryTokens, TypeMap.tokens, interfaceWords]
  rw [tokens] at spaced
  -- The search for the second interface passes over the first.
  obtain ⟨back, spacedBack, found⟩ := firstMatch_beyond words.2 words.1 (by decide) (by decide)
    silent.unopened_bodyTokens spaced
  have spacedInterface : Spaced (interfaceWords "SyncTypeMap".toList ++
      ['{'] :: (sync.bodyTokens ++ ['}'] :: [])) back := spacedBack
  have same : interfaceBody "SyncTypeMap".toList source =
      interfaceBody "SyncTypeMap".toList back := by
    rw [interfaceBody, interfaceBody, found]
  rw [same]
  exact ⟨interfaceBody_written words.1 writableApi.balanced spaced,
    interfaceBody_written words.2 writableSync.balanced spacedInterface⟩

/-- Reading the source of a registry that is written gives the declared catalog, whatever blanks
stand between its tokens. -/
theorem catalogOfSource_written {ε : Type} (writableApi : api.IsWritable)
    (writableSync : sync.IsWritable) (silent : IsSilent "SyncTypeMap".toList api.bodyTokens)
    (spaced : Spaced (registryTokens api sync) source) :
    catalogOfSource (fun _ => (.ok {} : Except ε HandlerMeta)) source =
      .ok (declaredCatalog api sync) := by
  have code : stripComments source = source :=
    spaced.stripped (fun token member =>
      (source_registryTokens writableApi writableSync token member).commentFree) rfl
  obtain ⟨spacedApi, spacedSync⟩ := interfaceBodies_written writableApi writableSync silent spaced
  have endpointBlocks : signaturesOf endpointFields
      (interfaceBody "ApiTypeMap".toList source) = api.signatures.map Declared.block :=
    signaturesOf_written writableApi spacedApi
  have broadcastBlocks : signaturesOf broadcastFields
      (interfaceBody "SyncTypeMap".toList source) = sync.signatures.map Declared.block :=
    signaturesOf_written writableSync spacedSync
  have endpoints := map_toEndpoint_blocks writableApi.signature
  have broadcasts := map_toBroadcast_blocks writableSync.signature
  have members : (api.signatures.map Declared.block).mapM (fun block =>
        (do return (block.page, block.toEndpoint (← (.ok {} : Except ε HandlerMeta))) :
          Except ε (Text × Endpoint))) =
      .ok ((api.signatures.map Declared.endpoint).map fun endpoint => (endpoint.page, endpoint)) := by
    rw [← endpoints]
    exact List.mapM_pure
  rw [catalogOfSource, code, endpointBlocks, broadcastBlocks, broadcasts, members]
  exact congrArg Except.ok (by rw [declaredCatalog, grouped_eq_byPage, grouped_eq_byPage])

/-- Where a text can be read that is not empty, there is a file. -/
theorem isFile_of_readExact {workspace : Workspace} {path : Path} {text : Text}
    (read : workspace.readExact path = .ok text) (nonempty : text ≠ []) :
    workspace.isFile path = .ok true := by
  unfold Workspace.readExact Workspace.readBytes at read
  unfold Workspace.isFile
  cases found : workspace.find path with
  | error fault => simp [found] at read
  | ok place =>
    obtain ⟨location, node⟩ := place
    cases node with
    | file bytes => rfl
    | folder => simp [found] at read
    | sink =>
      have empty : Utf8.decode [] = .ok [] := rfl
      simp only [found, empty, Except.ok.injEq] at read
      exact absurd read.symm nonempty

/-- Decoding a registry undoes encoding it: a file that holds the written registry of two type maps
gives every signature that they declare, and as many as they declare. -/
theorem extractCatalog_written {workspace : Workspace} {registry : Path} {extensions : List Text}
    (writableApi : api.IsWritable) (writableSync : sync.IsWritable)
    (silent : IsSilent "SyncTypeMap".toList api.bodyTokens)
    (spaced : Spaced (registryTokens api sync) source)
    (held : workspace.readExact registry = .ok source) :
    extractCatalog workspace registry none extensions = .ok (declaredCatalog api sync) ∧
      (declaredCatalog api sync).count = api.signatures.length + sync.signatures.length := by
  have tokens := source_registryTokens writableApi writableSync
  have first : registryTokens api sync = "export".toList :: (registryTokens api sync).tail := rfl
  have nonempty : source ≠ [] := Spaced.ne_nil (first ▸ spaced) (by decide)
  have isFile := isFile_of_readExact held nonempty
  have unified := spaced.unified (fun token member => (tokens token member).noReturn)
    (fun token member => (tokens token member).begins)
  have read : workspace.readText registry = .ok (Text.unifyLineEnds source) := by
    rw [Workspace.readText, held]
    rfl
  refine ⟨?_, ?_⟩
  · rw [extractCatalog, isFile, read]
    have catalog := catalogOfSource_written (ε := FileFault) writableApi writableSync silent unified
    exact congrArg (·.mapError RegistryFault.badPath) catalog
  · simp only [Catalog.count, declaredCatalog, length_flatMap_byPage, List.length_map]

/-- The path of the registry in the examples. -/
def examplePath : Path := { names := ["apiTypes.generated.ts".toList] }

/-- A workspace with the registry of two type maps, written with as few blanks as possible. -/
def exampleWorkspace (api : TypeMap EndpointShapes) (sync : TypeMap BroadcastShapes) : Workspace :=
  { here := []
    nodes := [(examplePath.names, .file (Utf8.encode (compact (registryTokens api sync))))] }

/-- A type map with a page that comes twice, a name without versions, and delimiters, separators and
comment marks in its literals and keys. -/
def exampleApi : TypeMap EndpointShapes := [
  ("forum".toList, [
    ("create//post".toList, .versioned [
      ("v1".toList, ⟨"\x7b tag: 'a;\x7d' | \"/*\" \x7d".toList, "Array<[id, 'it']>".toList, "put".toList⟩),
      ("v2".toList, ⟨"\x7b\x7d".toList, "(x: \x7b y: 1, z: 2 \x7d) => void".toList, "post".toList⟩)])]),
  ("rooms".toList, [("ping".toList, .flat ⟨"null".toList, "'it: \\'s'".toList, "get".toList⟩)]),
  ("forum".toList, [("\x7bopen".toList, .flat ⟨"string[]".toList, "A | B".toList, "Get".toList⟩)])]

/-- A type map with broadcasts for the examples. -/
def exampleSync : TypeMap BroadcastShapes := [
  ("rooms".toList, [("move".toList, .versioned [
    ("v1".toList, ⟨"\x7b at: [number, number] \x7d".toList, "never".toList, "'],\x7d'".toList⟩)])])]

theorem extractCatalog_written_example :
    extractCatalog (exampleWorkspace exampleApi exampleSync) examplePath none [] =
        .ok (declaredCatalog exampleApi exampleSync) ∧
      (declaredCatalog exampleApi exampleSync).count = 5 :=
  extractCatalog_written (by decide +kernel) (by decide +kernel) (by decide +kernel)
    (spaced_compact _) (by decide +kernel)

/-- A type map with one endpoint. -/
def singleEndpoint (page version : Text) (signature : EndpointShapes) : TypeMap EndpointShapes :=
  [(page, [("list".toList, .versioned [(version, signature)])])]

/-- A type map with one endpoint of a given input. -/
def singleInput (input : Text) : TypeMap EndpointShapes :=
  singleEndpoint "rooms".toList "v1".toList ⟨input, "A".toList, "get".toList⟩

/-- Type maps of closed texts, each short of one condition of `extractCatalog_written`. -/
def unwritableMaps : List (TypeMap EndpointShapes) := [
  -- The input is empty, ends with a blank, holds a comment, a separator or a carriage return.
  singleInput [],
  singleInput "A ".toList,
  singleInput "A/* B */".toList,
  singleInput "A; b: C".toList,
  singleInput "A\rB".toList,
  -- The method is empty, holds the quote around it or a carriage return.
  singleEndpoint "rooms".toList "v1".toList ⟨"A".toList, "A".toList, []⟩,
  singleEndpoint "rooms".toList "v1".toList ⟨"A".toList, "A".toList, "get'".toList⟩,
  singleEndpoint "rooms".toList "v1".toList ⟨"A".toList, "A".toList, "ge\rt".toList⟩,
  -- The page holds a quote or a carriage return, or ends with a backslash.
  singleEndpoint "room's".toList "v1".toList ⟨"A".toList, "A".toList, "get".toList⟩,
  singleEndpoint "ro\roms".toList "v1".toList ⟨"A".toList, "A".toList, "get".toList⟩,
  singleEndpoint "rooms\\".toList "v1".toList ⟨"A".toList, "A".toList, "get".toList⟩,
  -- The version is called like a field, and a text opens the second interface.
  singleEndpoint "rooms".toList "input".toList ⟨"A".toList, "A".toList, "get".toList⟩,
  singleInput "'export interface SyncTypeMap \x7b'".toList]

/-- The shapes of a type map are closed, but its written registry is not read as what it declares. -/
def IsLost (api : TypeMap EndpointShapes) : Prop :=
  (∀ declared ∈ api.signatures,
    isClosed declared.signature.input = true ∧ isClosed declared.signature.output = true) ∧
  extractCatalog (exampleWorkspace api exampleSync) examplePath none [] ≠
    .ok (declaredCatalog api exampleSync)

instance (api : TypeMap EndpointShapes) : Decidable (IsLost api) :=
  inferInstanceAs (Decidable (_ ∧ _))

theorem extractCatalog_ne_of_unwritable : unwritableMaps.Forall IsLost := by
  decide +kernel

end Catalog

end RouteCatalog
