import RouteCatalog.Proofs.Declaration
import RouteCatalog.Proofs.Entries
import RouteCatalog.Proofs.Keyed

/-!
# Written registries

What a registry declares, how it is written as source text, and the catalog that it stands for.
`registryTokens` is the source without its blanks. `declaredCatalog` is said without the reader:
every page at the place of its first signature, with all its signatures in their order.
`TypeMap.IsWritable` collects what its texts have to satisfy to be written at all.
-/

namespace RouteCatalog

/-- What is declared of one name: versions with their signatures, or one signature without a
version. -/
inductive NameDeclaration (σ : Type) where
  | versioned (signatures : List (Text × σ))
  | flat (signature : σ)
  deriving DecidableEq, Repr

/-- Pages with the names that they declare. -/
abbrev TypeMap (σ : Type) := List (Text × List (Text × NameDeclaration σ))

/-- The texts of an endpoint's signature. -/
structure EndpointShapes where
  input : Text
  output : Text
  method : Text
  deriving DecidableEq, Repr

/-- The texts of a broadcast's signature. -/
structure BroadcastShapes where
  clientInput : Text
  serverOutput : Text
  clientOutput : Text
  deriving DecidableEq, Repr

/-- A signature with the page, the name and the version under which it is declared. -/
structure Declared (σ : Type) where
  page : Text
  name : Text
  version : Text
  signature : σ
  deriving DecidableEq, Repr

/-- A text that may be a key in single quotes. -/
structure IsQuotableKey (key : Text) : Prop where
  unquoted : '\'' ∉ key
  unescaped : key.getLast? ≠ some '\\'
  noReturn : '\r' ∉ key

/-- A text that may be the value of a field: it is not empty, neither begins nor ends with a blank,
is closed, holds no separator of rows at its top level, no comment, and no line end but line feeds. -/
structure IsShapeText (shape : Text) : Prop where
  nonempty : shape ≠ []
  trimmed : shape.trim = shape
  closed : isClosed shape = true
  whole : rows shape = [shape]
  uncommented : stripComments shape = shape
  noReturn : '\r' ∉ shape

instance (key : Text) : Decidable (IsQuotableKey key) :=
  decidable_of_iff ('\'' ∉ key ∧ key.getLast? ≠ some '\\' ∧ '\r' ∉ key)
    ⟨fun ⟨unquoted, unescaped, noReturn⟩ => ⟨unquoted, unescaped, noReturn⟩,
      fun quotable => ⟨quotable.unquoted, quotable.unescaped, quotable.noReturn⟩⟩

instance (shape : Text) : Decidable (IsShapeText shape) :=
  decidable_of_iff (shape ≠ [] ∧ shape.trim = shape ∧ isClosed shape = true ∧
      rows shape = [shape] ∧ stripComments shape = shape ∧ '\r' ∉ shape)
    ⟨fun ⟨nonempty, trimmed, closed, whole, uncommented, noReturn⟩ =>
      ⟨nonempty, trimmed, closed, whole, uncommented, noReturn⟩,
      fun shape => ⟨shape.nonempty, shape.trimmed, shape.closed, shape.whole, shape.uncommented,
        shape.noReturn⟩⟩

/-- A literal may be the value of a field. -/
theorem IsShapeText.around {quote : Quote} {content : Text}
    (enclosed : quote.encloses content = true) (noReturn : '\r' ∉ content) :
    IsShapeText (quote.around content) where
  nonempty := by simp [Quote.around]
  trimmed := Text.trim_of_ends (by cases quote <;> decide) (by cases quote <;> decide)
  closed := isClosed_around enclosed
  whole := whole_around (by cases quote <;> decide) enclosed
  uncommented := stripComments_around enclosed
  noReturn := by cases quote <;> simpa [Quote.around, Quote.mark] using noReturn

/-- The texts of an endpoint's signature may be written. The method is the content of a literal, and
not empty. -/
structure EndpointShapes.IsWritable (signature : EndpointShapes) : Prop where
  input : IsShapeText signature.input
  output : IsShapeText signature.output
  method : signature.method ≠ []
  enclosed : Quote.single.encloses signature.method = true
  noReturn : '\r' ∉ signature.method

/-- The texts of a broadcast's signature may be written. -/
structure BroadcastShapes.IsWritable (signature : BroadcastShapes) : Prop where
  clientInput : IsShapeText signature.clientInput
  serverOutput : IsShapeText signature.serverOutput
  clientOutput : IsShapeText signature.clientOutput

instance EndpointShapes.decidableIsWritable (signature : EndpointShapes) :
    Decidable signature.IsWritable :=
  decidable_of_iff (IsShapeText signature.input ∧ IsShapeText signature.output ∧
      signature.method ≠ [] ∧ Quote.single.encloses signature.method = true ∧
      '\r' ∉ signature.method)
    ⟨fun ⟨input, output, method, enclosed, noReturn⟩ => ⟨input, output, method, enclosed, noReturn⟩,
      fun writable => ⟨writable.input, writable.output, writable.method, writable.enclosed,
        writable.noReturn⟩⟩

instance BroadcastShapes.decidableIsWritable (signature : BroadcastShapes) :
    Decidable signature.IsWritable :=
  decidable_of_iff (IsShapeText signature.clientInput ∧ IsShapeText signature.serverOutput ∧
      IsShapeText signature.clientOutput)
    ⟨fun ⟨client, server, output⟩ => ⟨client, server, output⟩,
      fun writable => ⟨writable.clientInput, writable.serverOutput, writable.clientOutput⟩⟩

/-- How the signatures of a type map are written: their fields, each with the token of its value. -/
class SignatureForm (σ : Type) where
  names : List Text
  fields : σ → List (Text × Text)
  IsWritable : σ → Prop
  [decidableWritable : DecidablePred IsWritable]
  names_ne_nil : names ≠ []
  fields_names : ∀ signature, (fields signature).map Prod.fst = names
  names_word : ∀ name ∈ names, IsWordText name
  values_shape : ∀ signature, IsWritable signature →
    ∀ field ∈ fields signature, IsShapeText field.2

instance : SignatureForm EndpointShapes where
  names := endpointFields
  fields signature := [
    ("input".toList, signature.input),
    ("output".toList, signature.output),
    ("method".toList, Quote.single.around signature.method)]
  IsWritable := EndpointShapes.IsWritable
  names_ne_nil := by decide
  fields_names _ := rfl
  names_word := by decide
  values_shape signature writable := by
    simpa using
      ⟨writable.input, writable.output, IsShapeText.around writable.enclosed writable.noReturn⟩

instance : SignatureForm BroadcastShapes where
  names := broadcastFields
  fields signature := [
    ("clientInput".toList, signature.clientInput),
    ("serverOutput".toList, signature.serverOutput),
    ("clientOutput".toList, signature.clientOutput)]
  IsWritable := BroadcastShapes.IsWritable
  names_ne_nil := by decide
  fields_names _ := rfl
  names_word := by decide
  values_shape signature writable := by
    simpa using ⟨writable.clientInput, writable.serverOutput, writable.clientOutput⟩

instance {σ : Type} [SignatureForm σ] :
    DecidablePred (SignatureForm.IsWritable : σ → Prop) :=
  SignatureForm.decidableWritable

section Tokens

variable {σ : Type} [SignatureForm σ]

/-- A quoted key with a block. -/
def blockTokens (key : Text) (inside : List Text) : List Text :=
  entryTokens (Quote.single.around key) (['{'] :: (inside ++ [['}']]))

/-- The fields of a signature. -/
def signatureTokens (signature : σ) : List Text :=
  (SignatureForm.fields signature).flatMap fun field => entryTokens field.1 [field.2]

/-- What stands in the block of a name. -/
def NameDeclaration.tokens : NameDeclaration σ → List Text
  | versioned signatures =>
    signatures.flatMap fun version => blockTokens version.1 (signatureTokens version.2)
  | flat signature => signatureTokens signature

/-- What stands in the block of a page. -/
def namesTokens (names : List (Text × NameDeclaration σ)) : List Text :=
  names.flatMap fun name => blockTokens name.1 name.2.tokens

/-- What stands in the body of a type map. -/
def TypeMap.bodyTokens (map : TypeMap σ) : List Text :=
  map.flatMap fun page => blockTokens page.1 (namesTokens page.2)

/-- The exported interface of a type map. -/
def TypeMap.tokens (name : Text) (map : TypeMap σ) : List Text :=
  ["export".toList, "interface".toList, name] ++ ['{'] :: (map.bodyTokens ++ [['}']])

end Tokens

/-- The source of a registry without its blanks. -/
def registryTokens (api : TypeMap EndpointShapes) (sync : TypeMap BroadcastShapes) : List Text :=
  api.tokens "ApiTypeMap".toList ++ sync.tokens "SyncTypeMap".toList

section Signatures

variable {σ : Type}

/-- The signatures of a name; one without a version is of the first. -/
def NameDeclaration.signatures (page name : Text) : NameDeclaration σ → List (Declared σ)
  | versioned signatures => signatures.map fun version => ⟨page, name, version.1, version.2⟩
  | flat signature => [⟨page, name, defaultVersion, signature⟩]

/-- The signatures of a type map, in the order in which they are declared. -/
def TypeMap.signatures (map : TypeMap σ) : List (Declared σ) :=
  map.flatMap fun page => page.2.flatMap fun name => name.2.signatures page.1 name.1

end Signatures

/-- A declared signature as a block of the registry. -/
def Declared.block {σ : Type} [SignatureForm σ] (declared : Declared σ) : SignatureBlock :=
  { page := declared.page
    name := declared.name
    version := declared.version
    fields := SignatureForm.fields declared.signature }

/-- The endpoint of a declared signature, as far as the registry tells. -/
def Declared.endpoint (declared : Declared EndpointShapes) : Endpoint :=
  { page := declared.page
    name := declared.name
    version := declared.version
    method := Text.upper declared.signature.method
    input := declared.signature.input
    output := declared.signature.output }

/-- The broadcast of a declared signature. -/
def Declared.broadcast (declared : Declared BroadcastShapes) : Broadcast :=
  { page := declared.page
    name := declared.name
    version := declared.version
    clientInput := declared.signature.clientInput
    serverOutput := declared.signature.serverOutput
    clientOutput := declared.signature.clientOutput }

/-- The catalog that the two type maps of a registry stand for. -/
def declaredCatalog (api : TypeMap EndpointShapes) (sync : TypeMap BroadcastShapes) : Catalog where
  endpoints := byPage Endpoint.page (api.signatures.map Declared.endpoint)
  broadcasts := byPage Broadcast.page (sync.signatures.map Declared.broadcast)

section Writable

variable {σ : Type} [SignatureForm σ]

/-- The texts declared of a name may be written; no version is called like a field. -/
def NameDeclaration.IsWritable : NameDeclaration σ → Prop
  | versioned signatures => ∀ version ∈ signatures, IsQuotableKey version.1 ∧
      version.1 ∉ SignatureForm.names σ ∧ SignatureForm.IsWritable version.2
  | flat signature => SignatureForm.IsWritable signature

/-- The texts of a type map may be written. -/
def TypeMap.IsWritable (map : TypeMap σ) : Prop :=
  ∀ page ∈ map, IsQuotableKey page.1 ∧
    ∀ name ∈ page.2, IsQuotableKey name.1 ∧ name.2.IsWritable

instance NameDeclaration.decidableIsWritable (declaration : NameDeclaration σ) :
    Decidable declaration.IsWritable :=
  match declaration with
  | .versioned signatures => inferInstanceAs (Decidable (∀ version ∈ signatures,
      IsQuotableKey version.1 ∧ version.1 ∉ SignatureForm.names σ ∧
        SignatureForm.IsWritable version.2))
  | .flat signature => inferInstanceAs (Decidable (SignatureForm.IsWritable signature))

instance TypeMap.decidableIsWritable (map : TypeMap σ) : Decidable map.IsWritable :=
  inferInstanceAs (Decidable (∀ page ∈ map, IsQuotableKey page.1 ∧
    ∀ name ∈ page.2, IsQuotableKey name.1 ∧ name.2.IsWritable))

end Writable

end RouteCatalog
