import RouteCatalog.Proofs.Catalog.RoundTrip
import RouteCatalog.Proofs.Fallible
import RouteCatalog.Registry

/-!
# Extracted catalogs

What is extracted from a registry and its handlers can be held by a document, as long as no literal
of a handler denotes an infinity or not a number: `Catalog.isHeld_of_extracted`. Integers are never
too long, since longer ones are not read as integers, and the pages of a catalog are distinct.
-/

namespace RouteCatalog

section Integers

/-- Digits denote a number that has no more of them. -/
theorem digitsValue_lt {digits : List Nat} (decimal : ∀ digit ∈ digits, digit < 10) :
    digitsValue digits < 10 ^ digits.length := by
  induction digits using List.reverseRecOn with
  | nil => decide
  | append_singleton front digit inductionHypothesis =>
    have inFront := inductionHypothesis fun other member => decimal other (by simp [member])
    have last := decimal digit (by simp)
    have single : digitsValue [digit] = digit := by simp [digitsValue]
    rw [digitsValue_append, single, List.length_append, List.length_singleton, pow_succ, pow_zero,
      one_mul, pow_succ]
    omega

/-- The digits that a text begins with are digits. -/
theorem lt_of_mem_leadingDigits {text : Text} {digit : Nat} (member : digit ∈ leadingDigits text) :
    digit < 10 := by
  obtain ⟨character, -, value⟩ := List.mem_filterMap.mp member
  exact digitValue?_lt value

/-- An integer of digits that are not too many does not have too many. -/
theorem isTooLong_signedInt {digits : List Nat} (negative : Bool)
    (decimal : ∀ digit ∈ digits, digit < 10) (few : digits.length ≤ maxIntegerDigits) :
    isTooLong (signedInt negative (digitsValue digits)) = false := by
  have magnitude : (signedInt negative (digitsValue digits)).natAbs = digitsValue digits := by
    cases negative <;> simp [signedInt]
  have bounded := Nat.lt_of_lt_of_le (digitsValue_lt decimal)
    (Nat.pow_le_pow_right (by decide : 0 < 10) few)
  rw [isTooLong, magnitude, decide_eq_false_iff_not, Nat.not_lt, natText,
    Nat.length_toDigits_le_iff (by decide) (by decide)]
  exact bounded

/-- No integer that is read has too many digits. -/
theorem isTooLong_of_readInteger? {text : Text} {number : Int}
    (read : readInteger? text = some number) : isTooLong number = false := by
  simp only [readInteger?, Option.bind_eq_bind, Option.bind_eq_some_iff] at read
  obtain ⟨plain, -, read⟩ := read
  split at read
  · cases read
  · rename_i acceptable
    obtain rfl := Option.some.inj read
    simp only [Bool.or_eq_true, decide_eq_true_eq, not_or, Nat.not_lt] at acceptable
    exact isTooLong_signedInt _ (fun digit => lt_of_mem_leadingDigits) acceptable.2

theorem RateLimit.isBounded_ofLiteral (literal : Text) : (ofLiteral literal).IsBounded := by
  simp only [ofLiteral]
  split
  · trivial
  · split
    · exact isTooLong_of_readInteger? ‹_›
    · trivial

theorem RateLimit.IsBounded.orElse {preferred fallback : RateLimit}
    (first : preferred.IsBounded) (second : fallback.IsBounded) :
    (preferred.orElse fallback).IsBounded := by
  unfold RateLimit.orElse
  split
  · exact second
  · exact first

end Integers

/-- The value is neither infinite nor not a number. -/
def Value.isFinite : Value → Bool
  | .float number => number.isFinite
  | _ => true

/-- No condition of the catalog expects an infinity or what is not a number. -/
def Catalog.IsFinite (catalog : Catalog) : Prop :=
  ∀ page ∈ catalog.endpoints, ∀ endpoint ∈ page.2, ∀ condition ∈ endpoint.auth.additional,
    condition.expected.isFinite = true

instance Catalog.decidableIsFinite (catalog : Catalog) : Decidable catalog.IsFinite :=
  inferInstanceAs (Decidable (∀ page ∈ catalog.endpoints, ∀ endpoint ∈ page.2,
    ∀ condition ∈ endpoint.auth.additional, condition.expected.isFinite = true))

/-- The conditions expect values of literals, and the limit does not have too many digits. -/
structure HandlerMeta.IsRead (handler : HandlerMeta) : Prop where
  expected : ∀ condition ∈ handler.auth.additional, ∃ literal, condition.expected = readLiteral literal
  rateLimit : handler.rateLimit.IsBounded

section Handlers

/-- A document holds the value of a literal, if the value is finite. -/
theorem isHeld_readLiteral {literal : Text} (finite : (readLiteral literal).isFinite = true) :
    (readLiteral literal).IsHeld := by
  simp only [readLiteral] at finite ⊢
  split
  · trivial
  · split
    · trivial
    · split
      · trivial
      · split
        · trivial
        · split
          · exact isTooLong_of_readInteger? ‹_›
          · split
            · rename_i read
              simp_all only [Value.isFinite, if_false]
              exact Binary64.isFinite_of_readBinary64? read finite
            · trivial

/-- A condition expects the value of a literal. -/
theorem expected_of_conditionOf? {entries : List (Text × Text)} {condition : AuthCondition}
    (read : conditionOf? entries = some condition) :
    ∃ literal, condition.expected = readLiteral literal := by
  simp only [conditionOf?, Option.bind_eq_bind, Option.bind_eq_some_iff] at read
  obtain ⟨key, -, found⟩ := read
  obtain ⟨kind, -, stated⟩ := List.exists_of_findSome?_eq_some found
  obtain ⟨literal, -, rfl⟩ := Option.map_eq_some_iff.mp stated
  exact ⟨literal, rfl⟩

theorem expected_of_readConditions? {text : Text} {conditions : List AuthCondition}
    (read : readConditions? text = some conditions) :
    ∀ condition ∈ conditions, ∃ literal, condition.expected = readLiteral literal := by
  unfold readConditions? at read
  split at read
  · split at read
    · intro condition member
      obtain ⟨item, -, made⟩ := exists_of_mem_mapM? read member
      obtain ⟨interior, -, stated⟩ := Option.bind_eq_some_iff.mp made
      exact expected_of_conditionOf? stated
    · cases read
  · cases read

theorem expected_of_readAuthLiteral (literal : Text) :
    ∀ condition ∈ (readAuthLiteral literal).additional,
      ∃ expected, condition.expected = readLiteral expected := by
  simp only [readAuthLiteral]
  split
  · simp
  · split
    · simp
    · exact expected_of_readConditions? ‹_›

/-- Every condition that source text states expects the value of a literal. -/
theorem expected_of_readAuth (source : Text) :
    ∀ condition ∈ (readAuth source).additional,
      ∃ literal, condition.expected = readLiteral literal := by
  unfold readAuth
  split
  · simp
  · split
    · simp
    · exact expected_of_readAuthLiteral _

theorem HandlerMeta.isRead_empty : ({} : HandlerMeta).IsRead :=
  ⟨by simp, trivial⟩

theorem HandlerMeta.isRead_ofSource (source : Text) : (ofSource source).IsRead := by
  refine ⟨expected_of_readAuth _, ?_⟩
  simp only [ofSource, readRateLimit]
  split
  · trivial
  · exact RateLimit.isBounded_ofLiteral _

/-- Whatever a handler says has been read. -/
theorem HandlerMeta.isRead_of_readHandlerMeta {workspace : Workspace} {path? : Option Path}
    {handler : HandlerMeta} (read : readHandlerMeta workspace path? = .ok handler) :
    handler.IsRead := by
  unfold readHandlerMeta at read
  cases path? with
  | none =>
    obtain rfl := pure_eq_ok_iff.mp read
    exact isRead_empty
  | some path =>
    obtain ⟨isFile, -, read⟩ := bind_eq_ok_iff.mp read
    split at read
    · split at read
      · obtain rfl := pure_eq_ok_iff.mp read
        exact isRead_ofSource _
      · obtain rfl := pure_eq_ok_iff.mp read
        exact isRead_empty
      · cases read
    · obtain rfl := pure_eq_ok_iff.mp read
      exact isRead_empty

end Handlers

section Pages

variable {α : Type} {page : α → Text} {members : List α}

theorem nodup_byPage : ((byPage page members).map Prod.fst).Nodup := by
  simpa [byPage, Function.comp_def] using nodup_eraseDups

/-- Only members are under the pages. -/
theorem mem_of_mem_byPage {group : Text × List α} {member : α}
    (inPages : group ∈ byPage page members) (inGroup : member ∈ group.2) : member ∈ members := by
  obtain ⟨key, -, rfl⟩ := List.mem_map.mp inPages
  exact (List.mem_filter.mp inGroup).1

end Pages

/-- A document holds the endpoint of what has been read, if its conditions are finite. -/
theorem SignatureBlock.isHeld_toEndpoint {block : SignatureBlock} {handler : HandlerMeta}
    (read : handler.IsRead) (finite : ∀ condition ∈ (block.toEndpoint handler).auth.additional,
      condition.expected.isFinite = true) : (block.toEndpoint handler).IsHeld := by
  constructor
  · intro condition member
    obtain ⟨literal, same⟩ := read.expected condition member
    have isFinite := finite condition member
    rw [same] at isFinite ⊢
    exact isHeld_readLiteral isFinite
  · refine read.rateLimit.orElse ?_
    split
    · exact RateLimit.isBounded_ofLiteral _
    · trivial

/-- A document holds the catalog of registry source, if it is finite. -/
theorem isHeld_catalogOfSource {ε : Type} {handlerOf : SignatureBlock → Except ε HandlerMeta}
    {source : Text} {catalog : Catalog}
    (read : ∀ block handler, handlerOf block = .ok handler → handler.IsRead)
    (extracted : catalogOfSource handlerOf source = .ok catalog) (finite : catalog.IsFinite) :
    catalog.IsHeld := by
  obtain ⟨entries, ran, extracted⟩ := bind_eq_ok_iff.mp extracted
  obtain rfl := pure_eq_ok_iff.mp extracted
  have made : ∀ entry ∈ entries, entry.1 = entry.2.page ∧
      ((∀ condition ∈ entry.2.auth.additional, condition.expected.isFinite = true) →
        entry.2.IsHeld) := by
    intro entry member
    obtain ⟨block, -, made⟩ := exists_of_mem_mapM ran member
    obtain ⟨handler, found, made⟩ := bind_eq_ok_iff.mp made
    obtain rfl := pure_eq_ok_iff.mp made
    exact ⟨rfl, SignatureBlock.isHeld_toEndpoint (read block handler found)⟩
  have endpoints : grouped entries = byPage Endpoint.page (entries.map Prod.snd) := by
    have same : entries.map (fun entry => (entry.2.page, entry.2)) = entries.map id :=
      List.map_congr_left fun entry member => by rw [← (made entry member).1]; rfl
    rw [← grouped_eq_byPage, List.map_map]
    exact congrArg grouped (same.trans (List.map_id entries)).symm
  have broadcasts : ∀ blocks : List SignatureBlock,
      grouped (blocks.map fun block => (block.page, block.toBroadcast)) =
        byPage Broadcast.page (blocks.map SignatureBlock.toBroadcast) := by
    intro blocks
    rw [← grouped_eq_byPage, List.map_map]
    rfl
  constructor
  · simpa [endpoints] using nodup_byPage
  · simpa [broadcasts] using nodup_byPage
  · intro page inPages endpoint inPage
    have grouped : page ∈ byPage Endpoint.page (entries.map Prod.snd) := endpoints ▸ inPages
    obtain ⟨entry, member, rfl⟩ := List.mem_map.mp (mem_of_mem_byPage grouped inPage)
    exact (made entry member).2 (finite page inPages entry.2 inPage)

/-- A document holds the catalog that is extracted from a registry and its handlers, if it is
finite. -/
theorem Catalog.isHeld_of_extracted {workspace : Workspace} {registry : Path} {root? : Option Path}
    {extensions : List Text} {catalog : Catalog}
    (extracted : extractCatalog workspace registry root? extensions = .ok catalog)
    (finite : catalog.IsFinite) : catalog.IsHeld := by
  simp only [extractCatalog] at extracted
  split at extracted
  · cases extracted
  · cases extracted
  · split at extracted
    · cases extracted
    · cases extracted
    · rename_i source _
      refine isHeld_catalogOfSource ?_ (mapError_eq_ok_iff.mp extracted) finite
      intro block handler found
      cases root? with
      | none =>
        obtain rfl := Except.ok.inj found
        exact HandlerMeta.isRead_empty
      | some root =>
        obtain ⟨path?, -, found⟩ := bind_eq_ok_iff.mp found
        exact HandlerMeta.isRead_of_readHandlerMeta found

end RouteCatalog
