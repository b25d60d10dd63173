import RouteCatalog.Proofs.Entries
import RouteCatalog.Proofs.Keyed
import RouteCatalog.Proofs.Registry.Block
import RouteCatalog.Proofs.Shape.Rendering

/-!
# Types with arguments in rows

The angle brackets around type arguments are no delimiters, so a row ends at a comma between them. A
type of names, array suffixes and type arguments is cut at its first comma, and what stands behind the
comma is lost: `fieldsOf_renderFields_cons` for the fields of an object type, `lastOf?_input` for the
input of a signature. It is kept exactly if no generic in it has more than one argument
(`keepsTypeArguments_iff`).
-/

namespace RouteCatalog

/-- A name of a type or field. -/
structure Identifier where
  text : Text
  valid : isIdentifier text = true

mutual

/-- A type of names, array suffixes and type arguments. -/
inductive ArgumentSyntax where
  | name (identifier : Identifier)
  | array (item : ArgumentSyntax)
  | applied (generic : Identifier) (arguments : ArgumentsSyntax)

/-- One or more type arguments. -/
inductive ArgumentsSyntax where
  | last (argument : ArgumentSyntax)
  | more (argument : ArgumentSyntax) (others : ArgumentsSyntax)

end

mutual

/-- The type as it is written. -/
def ArgumentSyntax.write : ArgumentSyntax → Text
  | .name identifier => identifier.text
  | .array item => item.write ++ ['[', ']']
  | .applied generic arguments => generic.text ++ ('<' :: (arguments.write ++ ['>']))

/-- The type arguments as they are written. -/
def ArgumentsSyntax.write : ArgumentsSyntax → Text
  | .last argument => argument.write
  | .more argument others => argument.write ++ (',' :: ' ' :: others.write)

end

mutual

/-- Has no generic in the type more than one argument? -/
def ArgumentSyntax.isUnary : ArgumentSyntax → Bool
  | .name _ => true
  | .array item => item.isUnary
  | .applied _ arguments => arguments.isUnary

/-- Is there a single argument, and has no generic in it more than one? -/
def ArgumentsSyntax.isUnary : ArgumentsSyntax → Bool
  | .last argument => argument.isUnary
  | .more _ _ => false

end

/-- The text before its first comma. -/
def Text.beforeComma (text : Text) : Text :=
  text.takeWhile (· != ',')

section Comma

variable {text front back : Text}

theorem Text.comma_not_mem_beforeComma (text : Text) : ',' ∉ text.beforeComma :=
  fun member => absurd (List.all_eq_true.mp List.all_takeWhile _ member) (by decide)

/-- A text without a comma stands before the comma as a whole. -/
theorem Text.beforeComma_eq_self_iff : text.beforeComma = text ↔ ',' ∉ text := by
  constructor
  · intro same
    rw [← same]
    exact text.comma_not_mem_beforeComma
  · intro absent
    refine List.takeWhile_eq_self_iff.mpr fun character member => ?_
    rw [bne_iff_ne]
    rintro rfl
    exact absent member

/-- A text is what stands before its first comma, or that and the comma and more. -/
theorem Text.eq_beforeComma_or (text : Text) :
    text = text.beforeComma ∨ ∃ behind, text = text.beforeComma ++ ',' :: behind := by
  have parts := List.takeWhile_append_dropWhile (p := (· != ',')) (l := text)
  cases left : text.dropWhile (· != ',') with
  | nil =>
    rw [left, List.append_nil] at parts
    exact .inl parts.symm
  | cons first behind =>
    have comma : first = ',' := by simpa using Text.not_of_dropWhile_eq_cons left
    rw [left, comma] at parts
    exact .inr ⟨behind, parts.symm⟩

/-- What stands before the comma in two texts in sequence stands there in one of the two. -/
theorem Text.mem_beforeComma_append {character : Char}
    (member : character ∈ Text.beforeComma (front ++ back)) :
    character ∈ front.beforeComma ∨ character ∈ back.beforeComma := by
  rw [beforeComma, List.takeWhile_append] at member
  split at member
  · rename_i full
    have whole : front.takeWhile (· != ',') = front :=
      (List.takeWhile_prefix _).eq_of_length full
    rw [beforeComma, beforeComma, whole]
    exact List.mem_append.mp member
  · exact .inl member

end Comma

/-- The characters of an identifier neither split nor end a row. -/
theorem Identifier.mem_text {identifier : Identifier} {character : Char}
    (member : character ∈ identifier.text) :
    isQuiet character = true ∧ isBlank character = false ∧ character ≠ ':' := by
  have goes := isIdentifierRest_of_mem identifier.valid member
  refine ⟨isQuiet_of_isIdentifierRest goes, isBlank_of_isIdentifierRest goes, ?_⟩
  rintro rfl
  exact absurd goes (by decide)

theorem Identifier.comma_not_mem (identifier : Identifier) : ',' ∉ identifier.text :=
  fun member => absurd (Identifier.mem_text member).1 (by decide)

mutual

/-- There is a comma in a type exactly if a generic in it has more than one argument. -/
theorem ArgumentSyntax.comma_mem_write_iff :
    (argument : ArgumentSyntax) → (',' ∈ argument.write ↔ argument.isUnary = false)
  | .name identifier => by
    simp [ArgumentSyntax.write, ArgumentSyntax.isUnary, identifier.comma_not_mem]
  | .array item => by
    simpa [ArgumentSyntax.write, ArgumentSyntax.isUnary] using item.comma_mem_write_iff
  | .applied generic arguments => by
    simpa [ArgumentSyntax.write, ArgumentSyntax.isUnary, generic.comma_not_mem] using
      arguments.comma_mem_write_iff

theorem ArgumentsSyntax.comma_mem_write_iff :
    (arguments : ArgumentsSyntax) → (',' ∈ arguments.write ↔ arguments.isUnary = false)
  | .last argument => by
    simpa [ArgumentsSyntax.write, ArgumentsSyntax.isUnary] using argument.comma_mem_write_iff
  | .more argument others => by
    simp [ArgumentsSyntax.write, ArgumentsSyntax.isUnary]

end

/-- What holds of a text of type arguments: its groups are closed and hold no comma, it declares nothing
and ends no row but at a comma, and it has no blank before the first. -/
structure IsArgumentText (text : Text) : Prop where
  closed : isClosed text = true
  outside : ∀ front back, text = front ++ ',' :: back → (Scanner.start.scan front).atTopLevel = true
  unmarked : ∀ character ∈ text, character ≠ ':' ∧ character ≠ ';'
  tight : ∀ character ∈ text.beforeComma, isBlank character = false

namespace IsArgumentText

variable {text front back : Text}

theorem append (frontText : IsArgumentText front) (backText : IsArgumentText back) :
    IsArgumentText (front ++ back) where
  closed := isClosed_append frontText.closed backText.closed
  outside := by
    intro before behind parts
    rcases List.append_eq_append_iff.mp parts with ⟨within, rfl, rest⟩ | ⟨within, rfl, rest⟩
    · rw [atTopLevel_scan_append frontText.closed]
      exact backText.outside within behind rest
    · cases within with
      | nil =>
        rw [List.append_nil] at frontText
        exact atTopLevel_scan_of_closed rfl frontText.closed
      | cons comma within =>
        obtain ⟨rfl, rfl⟩ := List.cons.inj rest
        exact frontText.outside before within rfl
  unmarked character member := (List.mem_append.mp member).elim
    (frontText.unmarked character) (backText.unmarked character)
  tight character member := (Text.mem_beforeComma_append member).elim
    (frontText.tight character) (backText.tight character)

/-- Quiet characters other than blanks and colons may stand in type arguments. -/
theorem of_quiet (quiet : ∀ character ∈ text, isQuiet character = true ∧ isBlank character = false ∧
    character ≠ ':') : IsArgumentText text where
  closed := (IsPart.of_quiet separatesParts_row
    (List.all_eq_true.mpr fun character member => (quiet character member).1)).closed
  outside := by
    rintro before behind rfl
    exact absurd (quiet ',' (by simp)).1 (by decide)
  unmarked := by
    intro character member
    refine ⟨(quiet character member).2.2, ?_⟩
    rintro rfl
    exact absurd (quiet ';' member).1 (by decide)
  tight character member := (quiet character ((List.takeWhile_sublist _).subset member)).2.1

theorem identifier (identifier : Identifier) : IsArgumentText identifier.text :=
  .of_quiet fun _ => Identifier.mem_text

/-- An array suffix may stand in type arguments. -/
theorem brackets : IsArgumentText ['[', ']'] where
  closed := by decide
  outside := by
    intro before behind parts
    have member : ',' ∈ ['[', ']'] := parts ▸ by simp
    exact absurd member (by decide)
  unmarked := by simp
  tight := List.forall_mem_cons.mpr ⟨by decide, List.forall_mem_singleton.mpr (by decide)⟩

/-- A comma between type arguments may. -/
theorem separator : IsArgumentText [',', ' '] where
  closed := by decide
  outside := by
    intro before behind parts
    cases before with
    | nil => rfl
    | cons first rest =>
      obtain ⟨-, behindFirst⟩ := List.cons.inj parts
      have member : ',' ∈ [' '] := behindFirst ▸ by simp
      exact absurd member (by decide)
  unmarked := by simp
  tight := List.forall_mem_nil _

end IsArgumentText

mutual

/-- The written form of a type is a text of type arguments. -/
theorem ArgumentSyntax.isArgumentText_write : (argument : ArgumentSyntax) → IsArgumentText argument.write
  | .name identifier => .identifier identifier
  | .array item => item.isArgumentText_write.append .brackets
  | .applied generic arguments => by
    have opening : IsArgumentText ['<'] := .of_quiet (List.forall_mem_singleton.mpr (by decide))
    have closing : IsArgumentText ['>'] := .of_quiet (List.forall_mem_singleton.mpr (by decide))
    exact (IsArgumentText.identifier generic).append
      (opening.append (arguments.isArgumentText_write.append closing))

theorem ArgumentsSyntax.isArgumentText_write :
    (arguments : ArgumentsSyntax) → IsArgumentText arguments.write
  | .last argument => argument.isArgumentText_write
  | .more argument others =>
    argument.isArgumentText_write.append (.append .separator others.isArgumentText_write)

end

/-- A row without a colon declares no field. -/
theorem fieldOfRow?_of_no_colon {row : Text} (absent : ':' ∉ row) : fieldOfRow? row = none := by
  cases read : fieldOfRow? row with
  | none => rfl
  | some field =>
    obtain ⟨-, front, gap, tail, -, -, -, rfl⟩ := fieldOfRow?_eq_some_iff.mp read
    simp at absent

/-- A row without a colon is no entry. -/
theorem entryOfRow?_of_no_colon {row : Text} (absent : ':' ∉ row) : entryOfRow? row = none := by
  cases read : entryOfRow? row with
  | none => rfl
  | some entry =>
    obtain ⟨front, token, gap, tail, -, -, -, rfl, -⟩ := entryOfRow?_eq_some_iff.mp read
    simp at absent

section Rows

variable {type front back : Text}

/-- A row with type arguments ends at their first comma, and the rest of them gives rows without a
colon. -/
theorem IsArgumentText.rows_append (typed : IsArgumentText type) (head : IsPart isRowSeparator front)
    (back : Text) :
    ∃ others, rows (front ++ (type ++ ';' :: back)) =
      (front ++ type.beforeComma) :: (others ++ rows back) ∧ ∀ row ∈ others, ':' ∉ row := by
  have noSeparator : type.beforeComma.all (fun character => !isRowSeparator character) = true := by
    refine List.all_eq_true.mpr fun character member => ?_
    have noComma : character ≠ ',' := by
      rintro rfl
      exact type.comma_not_mem_beforeComma member
    have noSemicolon := (typed.unmarked character ((List.takeWhile_sublist _).subset member)).2
    simp [isRowSeparator, noComma, noSemicolon]
  have whole : rows (front ++ type.beforeComma) = [front ++ type.beforeComma] :=
    whole_append_of_not_separator head.whole noSeparator
  rcases type.eq_beforeComma_or with full | ⟨behind, parts⟩
  · refine ⟨[], ?_, List.forall_mem_nil _⟩
    have closed := isClosed_append head.closed typed.closed
    rw [full] at closed
    conv => lhs; rw [full]
    rw [← List.append_assoc, rows, splitTopLevel_cons rfl (by decide) closed whole]
    rfl
  · have top : (Scanner.start.scan type.beforeComma).atTopLevel = true :=
      typed.outside _ _ parts
    have regular : Scanner.start.hasSurplus type.beforeComma = false :=
      hasSurplus_of_closed_append (parts ▸ typed.closed)
    have closed : isClosed type.beforeComma = true := by simp [isClosed, regular, top]
    have comma : isClosed (type.beforeComma ++ [',']) = true := isClosed_append closed (by decide)
    have level : (Scanner.start.scan behind).atTopLevel = true := by
      rw [← atTopLevel_scan_append comma, List.append_assoc, List.singleton_append, ← parts]
      exact atTopLevel_scan_of_closed rfl typed.closed
    refine ⟨rows behind, ?_, fun row member colon => ?_⟩
    · have shape : front ++ (type ++ ';' :: back) =
          front ++ type.beforeComma ++ ',' :: (behind ++ ';' :: back) := by
        conv => lhs; rw [parts]
        simp
      rw [shape, rows, splitTopLevel_cons rfl (by decide) (isClosed_append head.closed closed) whole,
        ← rows, rows_append_cons rfl level]
    · obtain ⟨before, after, rfl, -⟩ := mem_rows_iff.mp member
      refine (typed.unmarked ':' ?_).1 rfl
      rw [parts]
      simp [colon]

/-- Of type arguments in a row, a reader of rows with a colon reads what stands before the first
comma. -/
theorem IsArgumentText.filterMap_rows {α : Type} {read : Text → Option α} (typed : IsArgumentText type)
    (head : IsPart isRowSeparator front) (noColon : ∀ row, ':' ∉ row → read row = none)
    (back : Text) :
    (rows (front ++ (type ++ ';' :: back))).filterMap read =
      (read (front ++ type.beforeComma)).toList ++ (rows back).filterMap read := by
  obtain ⟨others, found, unmarked⟩ := typed.rows_append head back
  have lost : others.filterMap read = [] :=
    List.filterMap_eq_nil_iff.mpr fun row member => noColon row (unmarked row member)
  rw [found, List.filterMap_cons, List.filterMap_append, lost, List.nil_append]
  cases read (front ++ type.beforeComma) <;> rfl

end Rows

section Fields

variable {type : Text}

/-- A field with a type of one row can be written. -/
theorem Identifier.isWritable (key base : Identifier) : Field.IsWritable ⟨key.text, false, base.text⟩ where
  key := key.valid
  trimmed := Text.trim_of_no_blank fun _ member => (Identifier.mem_text member).2.1
  uncut := splitTopLevel_eq_singleton_iff.mp (IsPart.of_quiet separatesParts_row
    (List.all_eq_true.mpr fun _ member => (Identifier.mem_text member).1)).whole

/-- Of type arguments in the first of several fields, what stands before the first comma is read. -/
theorem fieldsOf_renderFields_cons {key : Identifier} {next : Field} {rest : List Field}
    (typed : IsArgumentText type) (writable : AreWritable (next :: rest)) :
    fieldsOf (renderFields (⟨key.text, false, type⟩ :: next :: rest)) =
      ⟨key.text, false, type.beforeComma⟩ :: next :: rest := by
  have space : Text.isBlankText [' '] = true := by decide
  have colon : IsPart isRowSeparator ([' '] ++ (key.text ++ (optionalMark false ++ ([] ++ [':'])))) :=
    isPart_beforeType space key.valid rfl
  have head := colon.append (.of_blank separatesParts_row space)
  have shape : ' ' :: (Text.join "; ".toList
        ((⟨key.text, false, type⟩ :: next :: rest : List Field).map Field.write) ++ [' ']) =
      [' '] ++ (key.text ++ (optionalMark false ++ ([] ++ [':']))) ++ [' '] ++
        (type ++ ';' :: (' ' :: (Text.join "; ".toList ((next :: rest).map Field.write) ++ [' ']))) := by
    simp [Text.join, Field.write]
  have declared : fieldOfRow? ([' '] ++ (key.text ++ (optionalMark false ++ ([] ++ [':']))) ++ [' '] ++
      type.beforeComma) = some ⟨key.text, false, type.beforeComma⟩ := by
    refine fieldOfRow?_eq_some_iff.mpr ⟨key.valid, [' '], [], [' '] ++ type.beforeComma, space, rfl, ?_,
      by simp⟩
    rw [Text.trim_blank_append space, Text.trim_of_no_blank typed.tight]
  rw [fieldsOf_renderFields, shape, typed.filterMap_rows head fun _ => fieldOfRow?_of_no_colon,
    declared,
    filterMap_rows_join writable]
  rfl

end Fields

section Registry

/-- A signature in a type map whose last input is declared with a type. -/
structure InputDeclaration (type : Text) where
  signatureFields : List Text
  body : Text
  page : Text
  name : Text
  version : Text
  front : Text
  /-- The blanks before the declaration. -/
  lead : Text
  back : Text
  stands : IsSignatureAt signatureFields body page name version
    (front ++ (lead ++ ("input: ".toList ++ (type ++ ';' :: back))))
  boundary : IsRowBoundary front
  blank : lead.isBlankText = true
  last : ∀ entry ∈ entriesOf back, entry.1 ≠ "input".toList

namespace InputDeclaration

variable {type : Text}

/-- The signature that is read. -/
def block (declaration : InputDeclaration type) : SignatureBlock where
  page := declaration.page
  name := declaration.name
  version := declaration.version
  fields := entriesOf (declaration.front ++ (declaration.lead ++
    ("input: ".toList ++ (type ++ ';' :: declaration.back))))

theorem block_mem_signaturesOf (declaration : InputDeclaration type) :
    declaration.block ∈ signaturesOf declaration.signatureFields declaration.body :=
  mem_signaturesOf_iff.mpr ⟨_, declaration.stands, rfl⟩

/-- Of type arguments in the input of a signature, what stands before the first comma is read. -/
theorem lastOf?_input (declaration : InputDeclaration type) (typed : IsArgumentText type) :
    lastOf? declaration.block.fields "input".toList = some type.beforeComma := by
  obtain ⟨before, rowsBefore⟩ := declaration.boundary.rows_append
  have word : WritesKey "input".toList "input".toList := .bare (by decide) (by decide)
  have head : IsPart isRowSeparator (declaration.lead ++ "input: ".toList) :=
    .append (.of_blank separatesParts_row declaration.blank) (.of_quiet separatesParts_row (by decide))
  have declared : entryOfRow? (declaration.lead ++ "input: ".toList ++ type.beforeComma) =
      some ("input".toList, type.beforeComma) := by
    have space : Text.isBlankText [' '] = true := by decide
    have read : entryOfRow? (declaration.lead ++ "input".toList ++ [] ++ ':' ::
        ([' '] ++ type.beforeComma)) = some ("input".toList, type.beforeComma) := by
      rw [entryOfRow?_written word declaration.blank rfl, Text.trim_blank_append space,
        Text.trim_of_no_blank typed.tight]
    simpa using read
  have fields : declaration.block.fields = before.filterMap entryOfRow? ++
      ("input".toList, type.beforeComma) :: entriesOf declaration.back := by
    have parts := typed.filterMap_rows head (fun _ => entryOfRow?_of_no_colon) declaration.back
    rw [declared, List.append_assoc] at parts
    rw [block, entriesOf, rowsBefore, List.filterMap_append, parts]
    rfl
  rw [fields, lastOf?_append, lastOf?_cons, lastOf?_eq_none_iff.mpr declaration.last]
  simp

/-- Every closed type can be declared. -/
theorem nonempty_of_closed (closed : isClosed type = true) : Nonempty (InputDeclaration type) := by
  have word : ∀ {key : Text}, key ≠ [] → key.all isBareKeyCharacter = true → WritesKey key key :=
    fun nonempty bare => .bare nonempty bare
  have page : WritesKey "rooms".toList "rooms".toList := word (by decide) (by decide)
  have name : WritesKey "list".toList "list".toList := word (by decide) (by decide)
  have version : WritesKey "v1".toList "v1".toList := word (by decide) (by decide)
  have row : isClosed ("input: ".toList ++ (type ++ [';'])) = true :=
    isClosed_append (by decide) (isClosed_append closed (by decide))
  have versionBlock := isClosed_block version row
  have nameBlock := isClosed_block name versionBlock
  have noField : ¬∃ entry ∈ entriesOf ("v1".toList ++ ':' :: ' ' :: '{' ::
      ("input: ".toList ++ (type ++ [';']) ++ ['}'])), entry.1 ∈ endpointFields := by
    rw [entriesOf_block version row]
    rintro ⟨entry, member, field⟩
    obtain rfl := List.mem_singleton.mp member
    exact absurd field (by decide : "v1".toList ∉ endpointFields)
  exact ⟨{
    signatureFields := endpointFields
    body := _
    page := _
    name := _
    version := _
    front := []
    lead := []
    back := []
    stands := .versioned (by rw [blocksOf_block page nameBlock]; exact List.mem_singleton.mpr rfl)
      (by rw [blocksOf_block name versionBlock]; exact List.mem_singleton.mpr rfl) noField
      (by rw [blocksOf_block version row]; exact List.mem_singleton.mpr rfl)
    boundary := .start
    blank := rfl
    last := by decide }⟩

end InputDeclaration

end Registry

/-- A type with arguments is kept as the type of a field, and as the input of a signature that declares it,
exactly if no generic in it has more than one argument. -/
theorem keepsTypeArguments_iff (generic : Identifier) (arguments : ArgumentsSyntax) :
    (∀ key further base : Identifier,
      fieldsOf (renderFields [⟨key.text, false, (ArgumentSyntax.applied generic arguments).write⟩,
          ⟨further.text, false, base.text⟩]) =
        [⟨key.text, false, (ArgumentSyntax.applied generic arguments).write⟩,
          ⟨further.text, false, base.text⟩] ↔ arguments.isUnary = true) ∧
      Nonempty (InputDeclaration (ArgumentSyntax.applied generic arguments).write) ∧
      ∀ declaration : InputDeclaration (ArgumentSyntax.applied generic arguments).write,
        declaration.block ∈ signaturesOf declaration.signatureFields declaration.body ∧
          (lastOf? declaration.block.fields "input".toList =
            some (ArgumentSyntax.applied generic arguments).write ↔ arguments.isUnary = true) := by
  have typed := (ArgumentSyntax.applied generic arguments).isArgumentText_write
  have kept : (ArgumentSyntax.applied generic arguments).write.beforeComma =
      (ArgumentSyntax.applied generic arguments).write ↔ arguments.isUnary = true := by
    rw [Text.beforeComma_eq_self_iff, ArgumentSyntax.comma_mem_write_iff]
    simp [ArgumentSyntax.isUnary]
  refine ⟨?_, InputDeclaration.nonempty_of_closed typed.closed, ?_⟩
  · intro key further base
    have writable : AreWritable [⟨further.text, false, base.text⟩] :=
      ⟨List.forall_mem_singleton.mpr (further.isWritable base), nofun⟩
    rw [fieldsOf_renderFields_cons typed writable]
    simpa using kept
  · intro declaration
    refine ⟨declaration.block_mem_signaturesOf, ?_⟩
    rw [declaration.lastOf?_input typed]
    simpa using kept

/-- A map from strings to numbers loses its second argument, as a field and as an input. -/
theorem not_keepsTypeArguments_map :
    ∃ (key generic further base : Identifier) (arguments : ArgumentsSyntax)
      (declaration : InputDeclaration (ArgumentSyntax.applied generic arguments).write),
      renderFields [⟨key.text, false, (ArgumentSyntax.applied generic arguments).write⟩,
          ⟨further.text, false, base.text⟩] = "\x7b k: Map<string, number>; g: B \x7d".toList ∧
      fieldsOf "\x7b k: Map<string, number>; g: B \x7d".toList =
        [⟨"k".toList, false, "Map<string".toList⟩, ⟨"g".toList, false, "B".toList⟩] ∧
      declaration.body =
        "rooms: \x7b list: \x7b v1: \x7b input: Map<string, number>; output: B \x7d \x7d \x7d".toList ∧
      declaration.block.fields =
        [("input".toList, "Map<string".toList), ("output".toList, "B".toList)] := by
  have inBody : ("rooms".toList,
      " list: \x7b v1: \x7b input: Map<string, number>; output: B \x7d \x7d ".toList) ∈ blocksOf
        "rooms: \x7b list: \x7b v1: \x7b input: Map<string, number>; output: B \x7d \x7d \x7d".toList := by
    decide
  have inPage : ("list".toList, " v1: \x7b input: Map<string, number>; output: B \x7d ".toList) ∈ blocksOf
      " list: \x7b v1: \x7b input: Map<string, number>; output: B \x7d \x7d ".toList := by
    decide
  have signature : IsSignatureAt endpointFields
      "rooms: \x7b list: \x7b v1: \x7b input: Map<string, number>; output: B \x7d \x7d \x7d".toList
      "rooms".toList "list".toList "v1".toList " input: Map<string, number>; output: B ".toList :=
    .versioned inBody inPage (by decide) (by decide)
  have fields : entriesOf " input: Map<string, number>; output: B ".toList =
      [("input".toList, "Map<string".toList), ("output".toList, "B".toList)] := by decide
  exact ⟨⟨"k".toList, by decide⟩, ⟨"Map".toList, by decide⟩, ⟨"g".toList, by decide⟩,
    ⟨"B".toList, by decide⟩, .more (.name ⟨"string".toList, by decide⟩)
      (.last (.name ⟨"number".toList, by decide⟩)),
    { signatureFields := endpointFields
      body := _
      page := _
      name := _
      version := _
      front := []
      lead := " ".toList
      back := " output: B ".toList
      stands := signature
      boundary := .start
      blank := by decide
      last := by decide }, by decide, by decide, rfl, fields⟩

end RouteCatalog
