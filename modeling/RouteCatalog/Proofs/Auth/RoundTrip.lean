import RouteCatalog.Proofs.Auth.Written

/-!
# Reading a written auth literal

An exported requirement is read back whatever blanks stand between its tokens and whatever follows
it: `readAuth_written`. Each layer that walks the text cuts it at its own separators, so the strings
in it may hold delimiters, separators and comment marks. The conditions are read one by one
(`conditionOf?_written`) and in their order (`readConditions?_written`).
-/

namespace RouteCatalog

section Objects

variable {entries : List (Text × List Text)} {text : Text}

/-- Each entry of an object has a word for its key and a value that is balanced and not split. -/
def IsObject (entries : List (Text × List Text)) : Prop :=
  ∀ entry ∈ entries, IsWordText entry.1 ∧ Balanced entry.2 ∧ Unsplit isRowSeparator entry.2

/-- The tokens of an object are balanced. -/
theorem IsObject.balanced (isObject : IsObject entries) : Balanced (objectTokens entries) := by
  refine balanced_joinTokens (by decide) fun part member => ?_
  obtain ⟨entry, inEntries, rfl⟩ := List.mem_map.mp member
  obtain ⟨word, balanced, -⟩ := isObject entry inEntries
  exact balanced_row word.writesKey balanced

/-- Reading the interior of an object gives, for each entry, its key and the text of its value. -/
theorem IsObject.entriesOf (isObject : IsObject entries) (nonempty : entries ≠ [])
    (spaced : Spaced (objectTokens entries) text) :
    List.Forall₂ (fun item entry => entry.1 = item.1 ∧
      ∃ value, Spaced item.2 value ∧ entry.2 = value.trim) entries (entriesOf text) := by
  obtain ⟨first, rest, rfl⟩ := List.exists_cons_of_ne_nil nonempty
  have rowsOf : ∀ part ∈ (first :: rest).map fun entry => entry.1 :: [':'] :: entry.2,
      Balanced part ∧ Unsplit isRowSeparator part := by
    intro part member
    obtain ⟨entry, inEntries, rfl⟩ := List.mem_map.mp member
    obtain ⟨word, balanced, unsplit⟩ := isObject entry inEntries
    exact ⟨balanced_row word.writesKey balanced, unsplit_row word.writesKey unsplit⟩
  have found : List.Forall₂ Spaced ((first :: rest).map fun entry => entry.1 :: [':'] :: entry.2)
      (rows text) :=
    splitTopLevel_joined rfl rfl (fun part member => (rowsOf part member).1)
      (fun part member => (rowsOf part member).2) spaced
  exact filterMap_entryOfRow?_spaced (fun entry member => (isObject entry member).1.writesKey)
    (List.forall₂_map_left_iff.mp found)

end Objects

section Conditions

variable {conditions : List WrittenCondition} {text : Text}

/-- A token of a literal is an unsplit value. -/
theorem IsLiteralToken.value {token : Text} (isLiteralToken : IsLiteralToken token) :
    Balanced [token] ∧ Unsplit isRowSeparator [token] :=
  ⟨.token isLiteralToken.closed .nil,
    .token isSeparating_rows isLiteralToken.closed isLiteralToken.whole (.nil isSeparating_rows)⟩

namespace WrittenCondition

variable {written : WrittenCondition}

theorem IsWritable.isObject (writable : written.IsWritable) : IsObject written.entries := by
  have words : IsWordText "key".toList ∧ IsWordText written.kind.sourceKey := by
    cases written.kind <;> decide
  refine List.forall_mem_cons.mpr ⟨⟨words.1, writable.1.isLiteralToken.value⟩, ?_⟩
  exact List.forall_mem_singleton.mpr ⟨words.2, writable.2.isLiteralToken.value⟩

/-- The entries of a written condition are its key and its check. -/
theorem entriesOf_written (writable : written.IsWritable)
    (spaced : Spaced (objectTokens written.entries) text) :
    entriesOf text =
      [("key".toList, written.key.token), (written.kind.sourceKey, written.expected.token)] := by
  have read := writable.isObject.entriesOf (by simp [entries]) spaced
  simp only [entries] at read
  generalize RouteCatalog.entriesOf text = found at read
  obtain _ | ⟨⟨firstKey, keyText, spacedKey, firstValue⟩, rest⟩ := read
  obtain _ | ⟨⟨secondKey, checkText, spacedCheck, secondValue⟩, rest⟩ := rest
  cases rest
  rw [spacedKey.trim_single writable.1.isLiteralToken.trimmed] at firstValue
  rw [spacedCheck.trim_single writable.2.isLiteralToken.trimmed] at secondValue
  exact congrArg₂ _ (Prod.ext firstKey firstValue) (congrArg (· :: []) (Prod.ext secondKey secondValue))

/-- A written condition is read from its object. -/
theorem conditionOf?_written (writable : written.IsWritable)
    (spaced : Spaced (objectTokens written.entries) text) :
    conditionOf? (entriesOf text) = some written.condition := by
  have key : (readLiteral written.key.token).plain = written.key.content := by
    rw [readLiteral_text]
    rfl
  have expected := readLiteral_token writable.2
  rw [entriesOf_written writable spaced, condition, ← key, ← expected]
  cases kind : written.kind <;> rfl

/-- The object of a condition is balanced. -/
theorem IsWritable.balanced (writable : written.IsWritable) : Balanced written.tokens :=
  .group .brace writable.isObject.balanced .nil

end WrittenCondition

/-- The objects of conditions are read as the conditions in their order. -/
theorem mapM_conditionOf?_written {items : List Text}
    (writable : ∀ written ∈ conditions, written.IsWritable)
    (spaced : List.Forall₂ Spaced (conditions.map WrittenCondition.tokens) items) :
    (items.filter fun item => !item.isBlankText).mapM (fun item =>
        (unwrapBraces? item).bind fun interior => conditionOf? (entriesOf interior)) =
      some (conditions.map WrittenCondition.condition) := by
  induction conditions generalizing items with
  | nil =>
    cases spaced
    rfl
  | cons written rest inductionHypothesis =>
    obtain _ | ⟨first, others⟩ := spaced
    rename_i item items
    have following := inductionHypothesis (fun other member => writable other (by simp [member]))
      others
    obtain ⟨interior, spacedInterior, -, unwrapped⟩ := unwrapBraces?_spaced first
    have read := WrittenCondition.conditionOf?_written (writable written (by simp)) spacedInterior
    have notBlank : Text.isBlankText item = false := by
      refine Bool.eq_false_iff.mpr fun blank => ?_
      have trimmed := unwrapBraces?_eq_some_iff.mp unwrapped
      rw [Text.trim_eq_nil_iff.mpr blank] at trimmed
      cases trimmed
    rw [List.filter_cons_of_pos (by simp [notBlank]), List.mapM_cons, unwrapped]
    simp [read, following]

/-- A list of written conditions is balanced. -/
theorem balanced_conditionsTokens (writable : ∀ written ∈ conditions, written.IsWritable) :
    Balanced (joinTokens ',' (conditions.map WrittenCondition.tokens)) := by
  refine balanced_joinTokens (by decide) fun part member => ?_
  obtain ⟨written, inConditions, rfl⟩ := List.mem_map.mp member
  exact (writable written inConditions).balanced

/-- A list of written conditions is read as the conditions. -/
theorem readConditions?_written (writable : ∀ written ∈ conditions, written.IsWritable)
    (spaced : Spaced (conditionsTokens conditions) text) :
    readConditions? text.trim = some (conditions.map WrittenCondition.condition) := by
  obtain ⟨interior, spacedItems, trimmed⟩ := Spaced.trim_group .bracket spaced
  have again : Text.trim ('[' :: (interior ++ [']'])) = '[' :: (interior ++ [']']) :=
    Text.trim_of_ends (by decide) (by decide)
  have brackets : text.trim = '[' :: (interior ++ [']']) := trimmed
  rw [brackets, readConditions?_of_trim again]
  cases conditions with
  | nil =>
    cases spacedItems with
    | done blank => simp [splitTopLevel_of_blank isSeparating_comma blank, blank]
  | cons written rest =>
    have each : ∀ part ∈ (written :: rest).map WrittenCondition.tokens,
        Balanced part ∧ Unsplit (· == ',') part := by
      intro part member
      obtain ⟨other, inConditions, rfl⟩ := List.mem_map.mp member
      have inside := (writable other inConditions).isObject.balanced
      exact ⟨(writable other inConditions).balanced, .group .brace isSeparating_comma inside⟩
    have items : List.Forall₂ Spaced ((written :: rest).map WrittenCondition.tokens)
        (splitTopLevel (· == ',') interior) :=
      splitTopLevel_joined rfl rfl (fun part member => (each part member).1)
        (fun part member => (each part member).2) spacedItems
    exact mapM_conditionOf?_written writable items

end Conditions

section Literal

variable {login : Bool} {conditions : List WrittenCondition} {text : Text}

/-- A boolean is a token of a literal. -/
theorem isLiteralToken_boolToken (login : Bool) : IsLiteralToken (boolToken login) := by
  have writable : WrittenValue.IsWritable (.bool login) := trivial
  exact writable.isLiteralToken

/-- The entries of a requirement have keys and values that can be read. -/
theorem isObject_authEntries (writable : ∀ written ∈ conditions, written.IsWritable) :
    IsObject (authEntries login conditions) := by
  have words : IsWordText "login".toList ∧ IsWordText "additional".toList := by decide
  have inside := balanced_conditionsTokens writable
  refine List.forall_mem_cons.mpr ⟨⟨words.1, (isLiteralToken_boolToken login).value⟩, ?_⟩
  exact List.forall_mem_singleton.mpr
    ⟨words.2, .group .bracket inside .nil, .group .bracket isSeparating_rows inside⟩

/-- The literal of a requirement is read as the requirement. -/
theorem readAuthLiteral_written (writable : ∀ written ∈ conditions, written.IsWritable)
    (spaced : Spaced (objectTokens (authEntries login conditions)) text) :
    readAuthLiteral ('{' :: (text ++ ['}'])) =
      { requiresLogin := login
        additional := conditions.map WrittenCondition.condition
        known := true } := by
  have read := (isObject_authEntries writable).entriesOf (by simp [authEntries]) spaced
  simp only [authEntries] at read
  generalize found : entriesOf text = entries at read
  obtain _ | ⟨⟨firstKey, loginText, spacedLogin, firstValue⟩, rest⟩ := read
  obtain _ | ⟨⟨secondKey, listText, spacedList, secondValue⟩, rest⟩ := rest
  cases rest
  rename_i first second
  rw [spacedLogin.trim_single (isLiteralToken_boolToken login).trimmed] at firstValue
  obtain ⟨firstName, firstText⟩ := first
  obtain ⟨secondName, secondText⟩ := second
  simp only at firstKey firstValue secondKey secondValue
  subst firstKey firstValue secondKey secondValue
  exact readAuthLiteral_of_entries found (readConditions?_written writable spacedList)

end Literal

section CommentFree

variable {entries : List (Text × List Text)} {login : Bool} {conditions : List WrittenCondition}

/-- An object holds no comments if its keys and values hold none. -/
theorem commentFree_objectTokens (each : ∀ entry ∈ entries,
    isCommentFree entry.1 = true ∧ ∀ token ∈ entry.2, isCommentFree token = true) :
    ∀ token ∈ objectTokens entries, isCommentFree token = true := by
  have marks : isCommentFree [','] = true ∧ isCommentFree [':'] = true := by decide
  intro token member
  rcases mem_joinTokens member with rfl | ⟨part, inParts, inPart⟩
  · exact marks.1
  · obtain ⟨entry, inEntries, rfl⟩ := List.mem_map.mp inParts
    obtain ⟨key, value⟩ := each entry inEntries
    rcases List.mem_cons.mp inPart with rfl | further
    · exact key
    · rcases List.mem_cons.mp further with rfl | inValue
      · exact marks.2
      · exact value token inValue

/-- Tokens between delimiters hold no comments if the tokens hold none. -/
theorem commentFree_group (kind : Delimiter) {inside : List Text}
    (free : ∀ token ∈ inside, isCommentFree token = true) :
    ∀ token ∈ [kind.opener] :: (inside ++ [[kind.closer]]), isCommentFree token = true := by
  have marks : isCommentFree [kind.opener] = true ∧ isCommentFree [kind.closer] = true := by
    cases kind <;> decide
  refine List.forall_mem_cons.mpr ⟨marks.1, List.forall_mem_append.mpr ⟨free, ?_⟩⟩
  exact List.forall_mem_singleton.mpr marks.2

/-- A written requirement holds no comments. -/
theorem commentFree_authTokens (writable : ∀ written ∈ conditions, written.IsWritable) :
    ∀ token ∈ authTokens login conditions, isCommentFree token = true := by
  have opening : ∀ token ∈ authOpening, isCommentFree token = true := by decide
  have words : isCommentFree "login".toList = true ∧ isCommentFree "additional".toList = true ∧
      isCommentFree "key".toList = true ∧ isCommentFree [','] = true ∧
      ∀ kind : ConditionKind, isCommentFree kind.sourceKey = true := by
    refine ⟨by decide, by decide, by decide, by decide, fun kind => ?_⟩
    cases kind <;> decide
  have condition : ∀ written ∈ conditions, ∀ token ∈ written.tokens,
      isCommentFree token = true := by
    intro written member
    obtain ⟨key, expected⟩ := writable written member
    refine commentFree_group .brace (commentFree_objectTokens (List.forall_mem_cons.mpr ⟨?_, ?_⟩))
    · exact ⟨words.2.2.1, List.forall_mem_singleton.mpr key.isLiteralToken.commentFree⟩
    · exact List.forall_mem_singleton.mpr ⟨words.2.2.2.2 written.kind,
        List.forall_mem_singleton.mpr expected.isLiteralToken.commentFree⟩
  have list : ∀ token ∈ conditionsTokens conditions, isCommentFree token = true := by
    refine commentFree_group .bracket fun token member => ?_
    rcases mem_joinTokens member with rfl | ⟨part, inParts, inPart⟩
    · exact words.2.2.2.1
    · obtain ⟨written, inConditions, rfl⟩ := List.mem_map.mp inParts
      exact condition written inConditions token inPart
  refine List.forall_mem_append.mpr ⟨opening, commentFree_group .brace ?_⟩
  refine commentFree_objectTokens (List.forall_mem_cons.mpr ⟨⟨words.1, ?_⟩, ?_⟩)
  · exact List.forall_mem_singleton.mpr (isLiteralToken_boolToken login).commentFree
  · exact List.forall_mem_singleton.mpr ⟨words.2.1, list⟩

end CommentFree

section Reading

variable {login : Bool} {conditions : List WrittenCondition} {inside : List Text} {text : Text}

/-- A blank begins no auth constant. -/
theorem atAuthLiteral?_of_blank {character : Char} {rest : Text}
    (blank : isBlank character = true) : atAuthLiteral? (character :: rest) = none := by
  have words : ∀ word ∈ ["export".toList, "const".toList, "auth".toList], IsWordText word := by
    decide
  rw [atAuthLiteral?, afterConstant?, afterWords?_of_blank (by simp) words blank]
  rfl

/-- An exported auth literal is found at its constant, whatever follows. -/
theorem atAuthLiteral?_spaced (spaced : Spaced (authOpening ++ ['{'] :: inside) text)
    (behind : Text) : ∃ interior, Spaced inside interior ∧
      Text.firstMatch atAuthLiteral? (text ++ behind) = some ('{' :: (interior ++ behind)) := by
  have words : ∀ word ∈ ["export".toList, "const".toList, "auth".toList], IsWordText word := by
    decide
  have begins : ∀ mark, isBlank mark = false →
      ∃ first rest, [mark] = first :: rest ∧ isBlank first = false :=
    fun mark notBlank => ⟨mark, [], rfl, notBlank⟩
  have tokens : Spaced (["export".toList, "const".toList, "auth".toList] ++
      [':'] :: "AuthProps".toList :: ['='] :: ['{'] :: inside) text := spaced
  -- The three words are read in front of whatever follows the text.
  obtain ⟨behindName, read, spacedType⟩ := afterWords?_spaced (by simp) words tokens
  obtain ⟨lead, same, -, ⟨first, others, rfl, notBlank⟩, again⟩ :=
    afterWords?_eq_some (by simp) words read
  have start : Text.trimStart (text ++ behind) = first :: others ++ (behindName ++ behind) := by
    obtain ⟨rest, -, starts⟩ := spaced.trimStart_token (words "export".toList (by simp)).begins
    have alone := starts []
    rw [List.append_nil, List.append_nil, same] at alone
    rw [starts, ← List.append_assoc, ← alone, List.append_assoc]
  obtain ⟨behindColon, spacedName, colon⟩ := spacedType.trimStart_token (begins ':' (by decide))
  obtain ⟨behindType, spacedEquals, name⟩ := spacedName.trimStart_token ⟨'A', _, rfl, by decide⟩
  obtain ⟨behindEquals, spacedBrace, equals⟩ := spacedEquals.trimStart_token (begins '=' (by decide))
  obtain ⟨interior, spacedInside, brace⟩ := spacedBrace.trimStart_token (begins '{' (by decide))
  have skipped : skipAuthType (behindName ++ behind) = behindType ++ behind := by
    have afterType : Text.after? "AuthProps".toList
        ("AuthProps".toList ++ (behindType ++ behind)) = some (behindType ++ behind) :=
      Text.after?_eq_some_iff.mpr rfl
    simp only [skipAuthType, colon, List.singleton_append, name, afterType]
  have opened : atAuthLiteral? (Text.trimStart (text ++ behind)) =
      some ('{' :: (interior ++ behind)) := by
    rw [start, atAuthLiteral?, afterConstant?, again]
    simp only [Option.bind_eq_bind, Option.bind_some, skipped, equals, List.singleton_append, brace]
  refine ⟨interior, spacedInside, ?_⟩
  rw [firstMatch_trimStart fun _ _ => atAuthLiteral?_of_blank]
  exact firstMatch_of_reader opened

/-- Reading a written requirement gives it back, whatever blanks stand between its tokens, whatever
its strings hold, and whatever text follows it. -/
theorem readAuth_written (writable : ∀ written ∈ conditions, written.IsWritable)
    (spaced : Spaced (authTokens login conditions) text) (following : Text) :
    readAuth (stripComments (text ++ following)) =
      { requiresLogin := login
        additional := conditions.map WrittenCondition.condition
        known := true } := by
  have stripped : stripComments (text ++ following) =
      text ++ stripCommentsFrom .code (Scanner.start.scan text) following := by
    have free : stripCommentsFrom .code .start text = text :=
      spaced.stripped (commentFree_authTokens writable) rfl
    have ends : Spaced ((authOpening ++ ['{'] :: objectTokens (authEntries login conditions)) ++
        [['}']]) text := by
      simpa [authTokens] using spaced
    exact stripCommentsFrom_append free (ends.opensComment_eq_false (by decide) following)
  rw [stripped]
  generalize stripCommentsFrom .code (Scanner.start.scan text) following = behind
  obtain ⟨rest, spacedRest, found⟩ := atAuthLiteral?_spaced spaced behind
  obtain ⟨interior, gap, rfl, spacedInterior, -, -⟩ := spacedRest.split
  have closed := spacedInterior.closed (isObject_authEntries writable).balanced
  have literal : block? ('{' :: (interior ++ ['}'] ++ gap ++ behind)) =
      some ('{' :: (interior ++ ['}'])) := by
    have group : block? ('{' :: (interior ++ '}' :: (gap ++ behind))) =
        some ('{' :: (interior ++ ['}'])) := block?_group .brace closed
    simpa using group
  rw [readAuth, found]
  simp only [literal]
  exact readAuthLiteral_written writable spacedInterior

/-- Conditions of every kind whose strings hold separators, delimiters, comment marks, line breaks
and the other quote. -/
def exampleConditions : List WrittenCondition := [
  ⟨⟨.single, "a, b: c".toList⟩, .value, .text ⟨.double, "// it's \x7d]".toList⟩⟩,
  ⟨⟨.double, "/* [\x7b(".toList⟩, .type, .text ⟨.single, "\n\"number\", */".toList⟩⟩,
  ⟨⟨.single, "roles".toList⟩, .value, .int (-42)⟩,
  ⟨⟨.single, []⟩, .nullish, .bool true⟩,
  ⟨⟨.double, "role's".toList⟩, .falsy, .null⟩]

theorem readAuth_written_example :
    readAuth (stripComments (compact (authTokens true exampleConditions) ++
        "; export const main = 1 // \x7b".toList)) =
      { requiresLogin := true
        additional := [
          ⟨"a, b: c".toList, .value, .text "// it's \x7d]".toList⟩,
          ⟨"/* [\x7b(".toList, .type, .text "\n\"number\", */".toList⟩,
          ⟨"roles".toList, .value, .int (-42)⟩,
          ⟨[], .nullish, .bool true⟩,
          ⟨"role's".toList, .falsy, .null⟩]
        known := true } :=
  readAuth_written (by decide) (spaced_compact _) _

end Reading

end RouteCatalog
