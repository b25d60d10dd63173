import RouteCatalog.Proofs.Registry.Opening
import RouteCatalog.Proofs.Registry.Written

/-!
# The tokens of a registry

What every token of a written registry is like, level by level: balanced delimiters
(`TypeMap.IsWritable.balanced`), nothing that reading a file or stripping comments would change
(`TypeMap.IsWritable.source`), and, if none of its texts holds one, no opening of another interface
(`IsSilent.unopened_bodyTokens`).
-/

namespace RouteCatalog

section Balance

/-- A quotable key is written in single quotes. -/
theorem IsQuotableKey.writesKey {key : Text} (quotable : IsQuotableKey key) :
    WritesKey (Quote.single.around key) key :=
  .quoted .single quotable.unquoted quotable.unescaped

/-- The tokens of an entry are balanced. -/
theorem balanced_entryTokens {token key : Text} {value : List Text} (writes : WritesKey token key)
    (balanced : Balanced value) : Balanced (entryTokens token value) := by
  have separators : isClosed [':'] = true ∧ isClosed [';'] = true := by decide
  exact .token writes.closed (.token separators.1 (balanced.append (.token separators.2 .nil)))

/-- A block in braces is balanced. -/
theorem balanced_block {inside : List Text} (balanced : Balanced inside) :
    Balanced (['{'] :: (inside ++ [['}']])) :=
  .group .brace balanced .nil

variable {σ : Type} [SignatureForm σ]

theorem mem_names_of_mem_fields {signature : σ} {field : Text × Text}
    (member : field ∈ SignatureForm.fields signature) : field.1 ∈ SignatureForm.names σ := by
  rw [← SignatureForm.fields_names signature]
  exact List.mem_map_of_mem member

/-- The names of the fields of a signature are written as they are. -/
theorem writesKey_of_mem_fields {signature : σ} {field : Text × Text}
    (member : field ∈ SignatureForm.fields signature) : WritesKey field.1 field.1 :=
  (SignatureForm.names_word field.1 (mem_names_of_mem_fields member)).writesKey

theorem balanced_signatureTokens {signature : σ} (writable : SignatureForm.IsWritable signature) :
    Balanced (signatureTokens signature) :=
  .flatMap fun field member => balanced_entryTokens (writesKey_of_mem_fields member)
    (.token (SignatureForm.values_shape signature writable field member).closed .nil)

theorem NameDeclaration.IsWritable.balanced {declaration : NameDeclaration σ}
    (writable : declaration.IsWritable) : Balanced declaration.tokens := by
  cases declaration with
  | flat signature => exact balanced_signatureTokens writable
  | versioned signatures =>
    refine .flatMap fun version member => ?_
    obtain ⟨quotable, -, signature⟩ := writable version member
    exact balanced_entryTokens quotable.writesKey
      (balanced_block (balanced_signatureTokens signature))

/-- The tokens of the names of a page are balanced. -/
theorem balanced_namesTokens {names : List (Text × NameDeclaration σ)}
    (writable : ∀ name ∈ names, IsQuotableKey name.1 ∧ name.2.IsWritable) :
    Balanced (namesTokens names) :=
  .flatMap fun name member => balanced_entryTokens (writable name member).1.writesKey
    (balanced_block (writable name member).2.balanced)

theorem TypeMap.IsWritable.balanced {map : TypeMap σ} (writable : map.IsWritable) :
    Balanced map.bodyTokens :=
  .flatMap fun page member => balanced_entryTokens (writable page member).1.writesKey
    (balanced_block (balanced_namesTokens (writable page member).2))

end Balance

section Source

/-- A token that reading a file and stripping comments leave as it is, whatever blanks stand around
it. -/
structure IsSourceToken (token : Text) : Prop where
  begins : ∃ first rest, token = first :: rest ∧ isBlank first = false
  commentFree : isCommentFree token = true
  noReturn : '\r' ∉ token

/-- A mark by itself stays as it is. -/
theorem isSourceToken_mark {mark : Char} (member : mark ∈ [':', ';', '{', '}']) :
    IsSourceToken [mark] := by
  simp only [List.mem_cons, List.not_mem_nil, or_false] at member
  rcases member with rfl | rfl | rfl | rfl <;>
    exact ⟨⟨_, [], rfl, by decide⟩, by decide, by decide⟩

/-- A word stays as it is. -/
theorem IsWordText.isSourceToken {word : Text} (isWordText : IsWordText word) :
    IsSourceToken word := by
  obtain ⟨first, rest, same, -, notBlank⟩ := isWordText.exists_cons
  exact ⟨⟨first, rest, same, notBlank⟩, isWordText.commentFree, isWordText.not_mem (by decide)⟩

/-- A quotable key stays as it is. -/
theorem IsQuotableKey.isSourceToken {key : Text} (quotable : IsQuotableKey key) :
    IsSourceToken (Quote.single.around key) where
  begins := quotable.writesKey.reads.head_not_blank
  commentFree :=
    isCommentFree_around (Quote.encloses_of_not_mem quotable.unquoted quotable.unescaped)
  noReturn := by simpa [Quote.around, Quote.mark] using quotable.noReturn

/-- The text of a shape stays as it is. -/
theorem IsShapeText.isSourceToken {shape : Text} (isShapeText : IsShapeText shape) :
    IsSourceToken shape where
  begins := by
    obtain ⟨first, rest, rfl⟩ := List.exists_cons_of_ne_nil isShapeText.nonempty
    exact ⟨first, rest, rfl, Text.isBlank_of_trim_eq isShapeText.trimmed⟩
  commentFree := isCommentFree_of_stripped isShapeText.closed isShapeText.uncommented
  noReturn := isShapeText.noReturn

/-- Each of the tokens stays as it is. -/
def SourceTokens (tokens : List Text) : Prop :=
  ∀ token ∈ tokens, IsSourceToken token

namespace SourceTokens

theorem append {front back : List Text} (first : SourceTokens front) (second : SourceTokens back) :
    SourceTokens (front ++ back) :=
  List.forall_mem_append.mpr ⟨first, second⟩

theorem flatMap {α : Type} {items : List α} {tokensOf : α → List Text}
    (each : ∀ item ∈ items, SourceTokens (tokensOf item)) :
    SourceTokens (items.flatMap tokensOf) := by
  intro token member
  obtain ⟨item, inItems, inTokens⟩ := List.mem_flatMap.mp member
  exact each item inItems token inTokens

/-- The tokens of an entry stay as they are if its key and its value do. -/
theorem entry {token : Text} {value : List Text} (key : IsSourceToken token)
    (source : SourceTokens value) : SourceTokens (entryTokens token value) := by
  refine List.forall_mem_cons.mpr ⟨key, List.forall_mem_cons.mpr ⟨?_, ?_⟩⟩
  · exact isSourceToken_mark (by simp)
  · exact source.append (List.forall_mem_singleton.mpr (isSourceToken_mark (by simp)))

/-- Tokens in braces stay as they are. -/
theorem braces {inside : List Text} (source : SourceTokens inside) :
    SourceTokens (['{'] :: (inside ++ [['}']])) := by
  refine List.forall_mem_cons.mpr ⟨isSourceToken_mark (by simp), ?_⟩
  exact source.append (List.forall_mem_singleton.mpr (isSourceToken_mark (by simp)))

end SourceTokens

variable {σ : Type} [SignatureForm σ]

/-- The tokens of a signature stay as they are. -/
theorem source_signatureTokens {signature : σ}
    (writable : SignatureForm.IsWritable signature) : SourceTokens (signatureTokens signature) := by
  refine .flatMap fun field member => .entry ?_ (List.forall_mem_singleton.mpr ?_)
  · exact (SignatureForm.names_word field.1 (mem_names_of_mem_fields member)).isSourceToken
  · exact (SignatureForm.values_shape signature writable field member).isSourceToken

theorem NameDeclaration.IsWritable.source {declaration : NameDeclaration σ}
    (writable : declaration.IsWritable) : SourceTokens declaration.tokens := by
  cases declaration with
  | flat signature => exact source_signatureTokens writable
  | versioned signatures =>
    refine .flatMap fun version member => ?_
    obtain ⟨quotable, -, signature⟩ := writable version member
    exact .entry quotable.isSourceToken (.braces (source_signatureTokens signature))

theorem TypeMap.IsWritable.source {map : TypeMap σ} (writable : map.IsWritable) :
    SourceTokens map.bodyTokens :=
  .flatMap fun page member => .entry (writable page member).1.isSourceToken
    (.braces (.flatMap fun name inPage =>
      .entry ((writable page member).2 name inPage).1.isSourceToken
        (.braces ((writable page member).2 name inPage).2.source)))

end Source

section Silence

variable {σ : Type} [SignatureForm σ] {name : Text}

/-- No token holds the opening of the interface. -/
def IsSilent (name : Text) (tokens : List Text) : Prop :=
  ∀ token ∈ tokens, Text.firstMatch (atInterfaceBody? name) token = none

instance (tokens : List Text) : Decidable (IsSilent name tokens) :=
  inferInstanceAs (Decidable (∀ token ∈ tokens, _ = none))

namespace IsSilent

theorem of_flatMap {α : Type} {items : List α} {tokensOf : α → List Text} {item : α}
    (silent : IsSilent name (items.flatMap tokensOf)) (member : item ∈ items) :
    IsSilent name (tokensOf item) :=
  fun token inTokens => silent token (List.mem_flatMap_of_mem member inTokens)

/-- An entry of a silent key and a silent value opens no interface. -/
theorem unopened_single {token value : Text} (silent : IsSilent name (entryTokens token [value])) :
    Unopened name (entryTokens token [value]) :=
  .fenced (silent token (by simp [entryTokens])) (by decide)
    (.fenced (silent value (by simp [entryTokens])) (by decide) .nil)

theorem inside {key : Text} {inside : List Text} (silent : IsSilent name (blockTokens key inside)) :
    IsSilent name inside :=
  fun token member => silent token (by simp [blockTokens, entryTokens, member])

/-- A block of a silent key opens no interface if its inside opens none. -/
theorem unopened_block {key : Text} {inside : List Text}
    (silent : IsSilent name (blockTokens key inside)) (unopened : Unopened name inside) :
    Unopened name (blockTokens key inside) := by
  have ending : Unopened name ([['}']] ++ [[';']]) :=
    .quiet (by decide) (.quiet (by decide) .nil)
  refine .fenced (silent _ (by simp [blockTokens, entryTokens])) (by decide) ?_
  rw [List.cons_append, List.append_assoc]
  exact .quiet (by decide) (unopened.append ending)

/-- No interface opens in a type map of silent tokens. -/
theorem unopened_bodyTokens {map : TypeMap σ} (silent : IsSilent name map.bodyTokens) :
    Unopened name map.bodyTokens := by
  have ofSignature : ∀ {signature : σ}, IsSilent name (signatureTokens signature) →
      Unopened name (signatureTokens signature) := fun silent =>
    .flatMap fun field member => (silent.of_flatMap member).unopened_single
  refine .flatMap fun page inMap => ?_
  have silentPage := silent.of_flatMap inMap
  refine silentPage.unopened_block (.flatMap fun nameDeclared inPage => ?_)
  have silentName := silentPage.inside.of_flatMap inPage
  refine silentName.unopened_block ?_
  cases declared : nameDeclared.2 with
  | flat signature =>
    rw [declared] at silentName
    exact ofSignature silentName.inside
  | versioned signatures =>
    rw [declared] at silentName
    refine .flatMap fun version inName => ?_
    have silentVersion := silentName.inside.of_flatMap inName
    exact silentVersion.unopened_block (ofSignature silentVersion.inside)

end IsSilent

end Silence

end RouteCatalog
