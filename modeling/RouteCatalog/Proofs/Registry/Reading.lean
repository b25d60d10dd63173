import RouteCatalog.Proofs.Registry.Tokens

/-!
# Reading the levels of a registry

Each level of a written registry is cut at the places where it was put together. The entries of a
signature are its fields (`entriesOf_signatureTokens`), a name gives the versions that it declares
(`signaturesOfName_written`), and a type map gives all its signatures in their order
(`signaturesOf_written`).
-/

namespace RouteCatalog

section Reading

/-- Lists whose members correspond have the same images if corresponding members have. -/
theorem map_eq_of_forall₂ {α β γ : Type} {related : α → β → Prop} {items : List α}
    {found : List β} {image : α → γ} {foundImage : β → γ}
    (corresponding : List.Forall₂ related items found)
    (same : ∀ item ∈ items, ∀ other, related item other → foundImage other = image item) :
    found.map foundImage = items.map image := by
  induction corresponding with
  | nil => rfl
  | cons first _ inductionHypothesis =>
    rw [List.map_cons, List.map_cons, same _ (by simp) _ first,
      inductionHypothesis fun item member => same item (List.mem_cons_of_mem _ member)]

theorem flatMap_eq_of_forall₂ {α β γ : Type} {related : α → β → Prop} {items : List α}
    {found : List β} {image : α → List γ} {foundImage : β → List γ}
    (corresponding : List.Forall₂ related items found)
    (same : ∀ item ∈ items, ∀ other, related item other → foundImage other = image item) :
    found.flatMap foundImage = items.flatMap image := by
  rw [List.flatMap_def, List.flatMap_def, map_eq_of_forall₂ corresponding same]

variable {σ : Type} [SignatureForm σ]

/-- The entries of a written signature are its fields. -/
theorem entriesOf_signatureTokens {signature : σ} {body : Text}
    (writable : SignatureForm.IsWritable signature)
    (spaced : Spaced (signatureTokens signature) body) :
    entriesOf body = SignatureForm.fields signature := by
  have shapes := SignatureForm.values_shape signature writable
  have read := entriesOf_written (fun field => writesKey_of_mem_fields)
    (fun field member => .token (shapes field member).closed .nil)
    (fun field member => .token isSeparating_rows (shapes field member).closed
      (shapes field member).whole (.nil isSeparating_rows)) spaced
  have same : (entriesOf body).map id = (SignatureForm.fields signature).map id :=
    map_eq_of_forall₂ read fun field member entry ⟨key, text, spacedValue, value⟩ =>
      Prod.ext key (value.trans (spacedValue.trim_single (shapes field member).trimmed))
  simpa using same

/-- The entries of a signature are known by the names of its fields. -/
theorem any_fields_contains (signature : σ) : (SignatureForm.fields signature).any
    (fun entry => (SignatureForm.names σ).contains entry.1) = true := by
  obtain ⟨name, names, same⟩ := List.exists_cons_of_ne_nil (SignatureForm.names_ne_nil (σ := σ))
  have first := SignatureForm.fields_names signature
  rw [same] at first
  obtain ⟨field, others, rest, rfl, -⟩ := List.map_eq_cons_iff.mp first
  rw [rest]
  simp [same]

/-- The entries of versions are not, as no version is called like a field. -/
theorem any_versions_contains {versions : List (Text × σ)} {entries : List (Text × Text)}
    (keys : entries.map Prod.fst = versions.map Prod.fst)
    (noField : ∀ version ∈ versions, version.1 ∉ SignatureForm.names σ) :
    entries.any (fun entry => (SignatureForm.names σ).contains entry.1) = false := by
  have absent : (entries.map Prod.fst).any (SignatureForm.names σ).contains = false := by
    rw [keys, List.any_eq_false]
    intro key member
    obtain ⟨version, inVersions, rfl⟩ := List.mem_map.mp member
    simpa using noField version inVersions
  simpa using absent

/-- The signatures of a written name are the declared ones. -/
theorem signaturesOfName_written {declaration : NameDeclaration σ} {page name body : Text}
    (writable : declaration.IsWritable) (spaced : Spaced declaration.tokens body) :
    signaturesOfName (SignatureForm.names σ) page name body =
      (declaration.signatures page name).map Declared.block := by
  cases declaration with
  | flat signature =>
    have fields := entriesOf_signatureTokens writable spaced
    simp only [signaturesOfName, fields, any_fields_contains, if_true]
    rfl
  | versioned signatures =>
    have writes : ∀ version ∈ signatures, WritesKey (Quote.single.around version.1) version.1 :=
      fun version member => (writable version member).1.writesKey
    have balanced : ∀ version ∈ signatures, Balanced (signatureTokens version.2) :=
      fun version member => balanced_signatureTokens (writable version member).2.2
    have entries := entriesOf_written writes
      (fun version member => balanced_block (balanced version member))
      (fun version member => .group .brace isSeparating_rows (balanced version member)) spaced
    have keys : (entriesOf body).map Prod.fst = signatures.map Prod.fst :=
      map_eq_of_forall₂ entries fun _ _ _ read => read.1
    have versioned := any_versions_contains keys fun version member => (writable version member).2.1
    have blocks := blocksOf_written writes balanced spaced
    simp only [signaturesOfName, versioned, Bool.false_eq_true, if_false]
    rw [NameDeclaration.signatures, List.map_map]
    refine map_eq_of_forall₂ blocks fun version member block read => ?_
    have fields := entriesOf_signatureTokens (writable version member).2.2 read.2
    simp [Declared.block, read.1, fields]

/-- The signatures of a written type map are the declared ones. -/
theorem signaturesOf_written {map : TypeMap σ} {body : Text} (writable : map.IsWritable)
    (spaced : Spaced map.bodyTokens body) :
    signaturesOf (SignatureForm.names σ) body = map.signatures.map Declared.block := by
  have pages := blocksOf_written (fun page member => (writable page member).1.writesKey)
    (fun page member => balanced_namesTokens (writable page member).2) spaced
  rw [signaturesOf, TypeMap.signatures, List.map_flatMap]
  refine flatMap_eq_of_forall₂ pages fun page member ⟨key, pageBody⟩ ⟨sameKey, spacedPage⟩ => ?_
  obtain rfl : key = page.1 := sameKey
  have names := blocksOf_written
    (fun name inPage => ((writable page member).2 name inPage).1.writesKey)
    (fun name inPage => ((writable page member).2 name inPage).2.balanced) spacedPage
  rw [List.map_flatMap]
  refine flatMap_eq_of_forall₂ names fun name inPage ⟨inner, nameBody⟩ ⟨sameName, spacedName⟩ => ?_
  obtain rfl : inner = name.1 := sameName
  exact signaturesOfName_written ((writable page member).2 name inPage).2 spacedName

end Reading

section Signatures

/-- Every declared signature of a writable type map is writable. -/
theorem TypeMap.IsWritable.signature {σ : Type} [SignatureForm σ] {map : TypeMap σ}
    (writable : map.IsWritable) :
    ∀ declared ∈ map.signatures, SignatureForm.IsWritable declared.signature := by
  intro declared member
  obtain ⟨page, inMap, inPage⟩ := List.mem_flatMap.mp member
  obtain ⟨name, nameInPage, inName⟩ := List.mem_flatMap.mp inPage
  have writableName := ((writable page inMap).2 name nameInPage).2
  cases declaration : name.2 with
  | flat signature =>
    rw [declaration] at inName writableName
    obtain rfl := List.mem_singleton.mp inName
    exact writableName
  | versioned signatures =>
    rw [declaration] at inName writableName
    obtain ⟨version, inSignatures, rfl⟩ := List.mem_map.mp inName
    exact (writableName version inSignatures).2.2

/-- A literal without its quotes is its content. -/
theorem unquote_around (content : Text) : unquote (Quote.single.around content) = content := by
  have trimmed : Text.trim (Quote.single.around content) = '\'' :: (content ++ ['\'']) :=
    Text.trim_of_ends (by decide) (by decide)
  have inside : Text.unwrapMarks? ['\'', '"'] ('\'' :: (content ++ ['\''])) = some content :=
    Text.unwrapMarks?_eq_some_iff.mpr ⟨'\'', by simp, rfl⟩
  rw [unquote, trimmed, inside]
  rfl

/-- A field with a text is found under its name if no later field has that name. -/
theorem field_eq_of_lastOf? {block : SignatureBlock} {key value default : Text}
    (found : lastOf? block.fields key = some value) (nonempty : value ≠ []) :
    block.field key default = value := by
  obtain ⟨first, rest, rfl⟩ := List.exists_cons_of_ne_nil nonempty
  rw [SignatureBlock.field, found]

/-- A declared signature of an endpoint is read as its endpoint. -/
theorem toEndpoint_block {declared : Declared EndpointShapes}
    (writable : declared.signature.IsWritable) :
    declared.block.toEndpoint {} = declared.endpoint := by
  have input : declared.block.field "input".toList defaultShape = declared.signature.input :=
    field_eq_of_lastOf? rfl writable.input.nonempty
  have output : declared.block.field "output".toList defaultShape = declared.signature.output :=
    field_eq_of_lastOf? rfl writable.output.nonempty
  have method : declared.block.field "method".toList [] =
      Quote.single.around declared.signature.method :=
    field_eq_of_lastOf? rfl (by simp [Quote.around])
  have unlimited : lastOf? declared.block.fields "rateLimit".toList = none := rfl
  have named : declared.signature.method.isEmpty = false := by
    simpa using writable.method
  simp only [SignatureBlock.toEndpoint, input, output, method, unquote_around, unlimited, named]
  rfl

/-- A declared signature of a broadcast is read as its broadcast. -/
theorem toBroadcast_block {declared : Declared BroadcastShapes}
    (writable : declared.signature.IsWritable) :
    declared.block.toBroadcast = declared.broadcast := by
  have client : declared.block.field "clientInput".toList defaultShape =
      declared.signature.clientInput :=
    field_eq_of_lastOf? rfl writable.clientInput.nonempty
  have server : declared.block.field "serverOutput".toList defaultShape =
      declared.signature.serverOutput :=
    field_eq_of_lastOf? rfl writable.serverOutput.nonempty
  have output : declared.block.field "clientOutput".toList defaultShape =
      declared.signature.clientOutput :=
    field_eq_of_lastOf? rfl writable.clientOutput.nonempty
  simp only [SignatureBlock.toBroadcast, client, server, output]
  rfl

/-- The endpoints of declared signatures, each beside its page. -/
theorem map_toEndpoint_blocks {signatures : List (Declared EndpointShapes)}
    (writable : ∀ declared ∈ signatures, declared.signature.IsWritable) :
    (signatures.map Declared.block).map (fun block => (block.page, block.toEndpoint {})) =
      (signatures.map Declared.endpoint).map fun endpoint => (endpoint.page, endpoint) := by
  rw [List.map_map, List.map_map]
  refine List.map_congr_left fun declared member => ?_
  have read := toEndpoint_block (writable declared member)
  simp only [Function.comp_apply, read]
  rfl

/-- The broadcasts of declared signatures, each beside its page. -/
theorem map_toBroadcast_blocks {signatures : List (Declared BroadcastShapes)}
    (writable : ∀ declared ∈ signatures, declared.signature.IsWritable) :
    (signatures.map Declared.block).map (fun block => (block.page, block.toBroadcast)) =
      (signatures.map Declared.broadcast).map fun broadcast => (broadcast.page, broadcast) := by
  rw [List.map_map, List.map_map]
  refine List.map_congr_left fun declared member => ?_
  have read := toBroadcast_block (writable declared member)
  simp only [Function.comp_apply, read]
  rfl

end Signatures

end RouteCatalog
