import RouteCatalog.Proofs.Json.Lines
import RouteCatalog.Proofs.Json.RoundTrip
import RouteCatalog.Snippet

/-!
# Payloads in snippets

A snippet has its payload one level deeper than the payload is written on its own. For that every line feed
is replaced, whatever it stands for; but no string contributes one, so the result is the payload as it is
written on the next level (`replace_writeAt`), and it is read on every level (`isRead_of_isPayload`). Reading is
not limited to a depth: a value is nested less deep than it is long.
-/

namespace RouteCatalog

/-- A value of the JSON types: integers have not too many digits, and no number is a floating-point one. -/
inductive IsPayload : Value → Prop where
  | null : IsPayload .null
  | bool (flag : Bool) : IsPayload (.bool flag)
  | int {number : Int} (bounded : isTooLong number = false) : IsPayload (.int number)
  | text (characters : Text) : IsPayload (.text characters)
  | list {items : List Value} (each : ∀ item ∈ items, IsPayload item) : IsPayload (.list items)
  | record {entries : List (Text × Value)} (each : ∀ entry ∈ entries, IsPayload entry.2) :
      IsPayload (.record entries)

/-- The text without the two spaces behind each of its line feeds. -/
def unindented : Text → Text
  | [] => []
  | '\n' :: ' ' :: ' ' :: rest => '\n' :: unindented rest
  | character :: rest => character :: unindented rest

namespace Json

/-- The value of a JSON text, with lists and records nested as deep as may be. Names of floating-point numbers
are read as well, so a value without such numbers is the value of proper JSON text. -/
def decode? (text : Text) : Option Value :=
  match readValue? (2 * text.length + 2) text.length text with
  | some (value, following) => if (skipSpace following).isEmpty then some value else none
  | none => none

end Json

namespace Text

section Replacing

variable {character : Char} {replacement : Text}

theorem replace_append (front back : Text) : (front ++ back).replace character replacement =
    front.replace character replacement ++ back.replace character replacement :=
  List.flatMap_append

/-- Another character stays. -/
theorem replace_cons_of_ne {first : Char} (other : first ≠ character) (rest : Text) :
    Text.replace (first :: rest) character replacement =
      first :: rest.replace character replacement := by
  rw [Text.replace, List.flatMap_cons, if_neg other]
  rfl

/-- Nothing is replaced in a text without the character. -/
theorem replace_of_not_mem {text : Text} (absent : character ∉ text) :
    text.replace character replacement = text := by
  induction text with
  | nil => rfl
  | cons first rest inductionHypothesis =>
    rw [List.mem_cons, not_or] at absent
    rw [replace_cons_of_ne (Ne.symm absent.1), inductionHypothesis absent.2]

/-- Replacing in joined parts replaces in the separators and in each part. -/
theorem replace_join (separator : Text) (parts : List Text) :
    (Text.join separator parts).replace character replacement =
      Text.join (separator.replace character replacement)
        (parts.map fun part => part.replace character replacement) := by
  fun_induction Text.join separator parts with
  | case1 => rfl
  | case2 part => rfl
  | case3 part next rest inductionHypothesis =>
    rw [replace_append, replace_append, inductionHypothesis]
    rfl

end Replacing

end Text

/-- Taking the spaces behind line feeds away undoes putting them there. -/
theorem unindented_replace (text : Text) : unindented (text.replace '\n' "\n  ".toList) = text := by
  induction text with
  | nil => rfl
  | cons character rest inductionHypothesis =>
    rw [Text.replace, List.flatMap_cons]
    split
    · rename_i feed
      subst feed
      exact congrArg ('\n' :: ·) inductionHypothesis
    · rename_i other
      rw [List.singleton_append, unindented]
      · exact congrArg (character :: ·) inductionHypothesis
      · exact fun _ feed => absurd feed other

namespace Json

section Indentation

variable {style : FloatNotation}

/-- Spaces behind its line feed put a line on the next level. -/
theorem replace_lineStart (level : Nat) :
    (lineStart level).replace '\n' "\n  ".toList = lineStart (level + 1) := by
  have spaces : '\n' ∉ List.replicate (2 * level) ' ' := by simp [List.mem_replicate]
  have behind : Text.replace (List.replicate (2 * level) ' ') '\n' "\n  ".toList =
      List.replicate (2 * level) ' ' :=
    Text.replace_of_not_mem spaces
  calc (lineStart level).replace '\n' "\n  ".toList
      = "\n  ".toList ++ Text.replace (List.replicate (2 * level) ' ') '\n' "\n  ".toList := rfl
    _ = lineStart (level + 1) := by
        rw [behind, lineStart, Nat.mul_succ, Nat.add_comm, List.replicate_add]
        rfl

/-- Lists and records are put on the next level with their parts. -/
theorem replace_enclosed {opening closing : Char} (opens : opening ≠ '\n') (closes : closing ≠ '\n')
    (level : Nat) (parts : List Text) :
    (enclosed opening closing level parts).replace '\n' "\n  ".toList =
      enclosed opening closing (level + 1) (parts.map fun part => part.replace '\n' "\n  ".toList) := by
  cases parts with
  | nil =>
    have absent : '\n' ∉ [opening, closing] := by simp [opens.symm, closes.symm]
    exact Text.replace_of_not_mem absent
  | cons part parts =>
    have absent : '\n' ∉ [closing] := by simp [closes.symm]
    have kept : Text.replace [closing] '\n' "\n  ".toList = [closing] := Text.replace_of_not_mem absent
    simp only [enclosed, List.isEmpty_cons, List.map_cons, Bool.false_eq_true, if_false, List.cons_append,
      Text.replace_cons_of_ne opens, Text.replace_cons_of_ne (by decide : ',' ≠ '\n'), Text.replace_append,
      replace_lineStart, Text.replace_join, kept]

/-- The items of a list are written one by one. -/
theorem writeItems_eq_map (level : Nat) (items : List Value) :
    writeItems style level items = items.map (writeAt style level) := by
  induction items with
  | nil => rfl
  | cons item items inductionHypothesis => rw [writeItems_cons, inductionHypothesis, List.map_cons]

/-- The entries of a record are written one by one. -/
theorem writeEntries_eq_map (level : Nat) (entries : List (Text × Value)) :
    writeEntries style level entries =
      entries.map fun entry => quote entry.1 ++ ": ".toList ++ writeAt style level entry.2 := by
  induction entries with
  | nil => rfl
  | cons entry entries inductionHypothesis =>
    rw [writeEntries_cons, inductionHypothesis, List.map_cons]

/-- A payload is put on the next level by spaces behind its line feeds. -/
theorem replace_writeAt {value : Value} (isPayload : IsPayload value) (level : Nat) :
    (writeAt style level value).replace '\n' "\n  ".toList = writeAt style (level + 1) value := by
  induction isPayload generalizing level with
  | null => exact Text.replace_of_not_mem (by simp)
  | bool flag =>
    have absent : '\n' ∉ writeAt style level (.bool flag) := by cases flag <;> simp
    rw [Text.replace_of_not_mem absent, writeAt_bool, writeAt_bool]
  | @int number => exact Text.replace_of_not_mem (not_mem_intText (by decide) (by decide) number)
  | text characters => exact Text.replace_of_not_mem (control_not_mem_quote (by decide) characters)
  | @list items _ inductionHypothesis =>
    rw [writeAt_list, writeAt_list, replace_enclosed (by decide) (by decide), writeItems_eq_map,
      writeItems_eq_map, List.map_map]
    congr 1
    exact List.map_congr_left fun item member => inductionHypothesis item member (level + 1)
  | @record entries _ inductionHypothesis =>
    rw [writeAt_record, writeAt_record, replace_enclosed (by decide) (by decide), writeEntries_eq_map,
      writeEntries_eq_map, List.map_map]
    congr 1
    refine List.map_congr_left fun entry member => ?_
    have key : (quote entry.1).replace '\n' "\n  ".toList = quote entry.1 :=
      Text.replace_of_not_mem (control_not_mem_quote (by decide) entry.1)
    have colon : Text.replace ": ".toList '\n' "\n  ".toList = ": ".toList :=
      Text.replace_of_not_mem (by decide)
    simp only [Function.comp_apply, Text.replace_append, key, colon,
      inductionHypothesis entry member (level + 1)]

end Indentation

section Depth

variable {style : FloatNotation}

/-- Lists and records are longer than each of their parts. -/
theorem length_lt_enclosed {opening closing : Char} {level : Nat} {part : Text} {parts : List Text}
    (member : part ∈ parts) : part.length < (enclosed opening closing level parts).length := by
  obtain ⟨first, others, rfl⟩ := List.exists_cons_of_ne_nil (List.ne_nil_of_mem member)
  have inTotal : part.length ≤ totalLength (first :: others) :=
    (List.sublist_flatten_of_mem member).length_le
  have inJoined := totalLength_le (',' :: lineStart (level + 1)) (first :: others)
  rw [enclosed_eq]
  simp only [partsText, List.length_cons, List.length_append]
  omega

/-- A payload is read inside as many further lists and records as it has characters, on any level. -/
theorem isRead_of_isPayload {value : Value} (isPayload : IsPayload value) {level depth : Nat}
    (enough : (writeAt style level value).length ≤ depth) : IsRead style depth value := by
  induction isPayload generalizing level depth with
  | null => exact isRead_null
  | bool flag => exact isRead_bool flag
  | int bounded => exact isRead_int bounded
  | text characters => exact isRead_text characters
  | @list items _ inductionHypothesis =>
    rw [writeAt_list, writeItems_eq_map] at enough
    cases items with
    | nil => exact isRead_emptyList
    | cons item items =>
      have shorter : ∀ other ∈ item :: items, (writeAt style (level + 1) other).length < depth :=
        fun other member =>
          Nat.lt_of_lt_of_le (length_lt_enclosed (List.mem_map_of_mem member)) enough
      obtain ⟨less, rfl⟩ := Nat.exists_eq_succ_of_ne_zero (Nat.ne_zero_of_lt (shorter item (by simp)))
      exact isRead_list fun other member =>
        inductionHypothesis other member (Nat.le_of_lt_succ (shorter other member))
  | @record entries _ inductionHypothesis =>
    rw [writeAt_record, writeEntries_eq_map] at enough
    cases entries with
    | nil => exact isRead_emptyRecord
    | cons entry entries =>
      have shorter : ∀ other ∈ entry :: entries, (writeAt style (level + 1) other.2).length < depth := by
        intro other member
        have inEnclosed := Nat.lt_of_lt_of_le (length_lt_enclosed (List.mem_map_of_mem member)) enough
        simp only [List.length_append] at inEnclosed
        omega
      obtain ⟨less, rfl⟩ := Nat.exists_eq_succ_of_ne_zero (Nat.ne_zero_of_lt (shorter entry (by simp)))
      exact isRead_record fun other member =>
        inductionHypothesis other member (Nat.le_of_lt_succ (shorter other member))

/-- A payload is decoded on whatever level it is written. -/
theorem decode?_writeAt {value : Value} (isPayload : IsPayload value) (level : Nat) :
    decode? (writeAt style level value) = some value := by
  have isRead : IsRead style (writeAt style level value).length value :=
    isRead_of_isPayload isPayload le_rfl
  have read : readValue? (2 * (writeAt style level value).length + 2)
      (writeAt style level value).length (writeAt style level value) = some (value, []) := by
    simpa using isRead level (2 * (writeAt style level value).length + 2) [] [] rfl
      (by simp [EndsNumber]) (Nat.le_add_right _ 2)
  rw [decode?, read]
  rfl

end Depth

end Json

/-- A payload in a snippet is written on the level of the properties. -/
theorem snippetPayload_eq {payload : Value} (isPayload : IsPayload payload) :
    snippetPayload payload = Json.writeAt payloadNotation 1 payload :=
  Json.replace_writeAt isPayload 0

/-- Both snippets print the payload between lines that are the same for all payloads, as JSON text that
decodes to it and that is, without the two spaces behind each line feed, the payload as it is written on its
own. -/
theorem snippets_decode (target : CallTarget) :
    ∃ requestBefore requestAfter messageBefore messageAfter : Text, ∀ payload, IsPayload payload →
      requestSnippet target payload = requestBefore ++
        ("\n  data: ".toList ++ (snippetPayload payload ++ (",\n".toList ++ requestAfter))) ∧
      messageSnippet target payload = messageBefore ++
        ("\n  data: ".toList ++ (snippetPayload payload ++ (",\n".toList ++ messageAfter))) ∧
      Json.decode? (snippetPayload payload) = some payload ∧
      unindented (snippetPayload payload) = Json.write payloadNotation payload := by
  obtain ⟨opening, closing, requestLines, -⟩ := exists_requestSnippet target.kind
  obtain ⟨opening', closing', messageLines, -⟩ := exists_messageSnippet target.kind
  refine ⟨opening ++ ("name: ".toList ++ (inQuotes target.requestName ++ ",\n  version: ".toList ++
      (inQuotes target.version ++ [',']))), closing,
    opening' ++ ("name: ".toList ++ (inQuotes target.route ++ [','])), closing',
    fun payload isPayload => ⟨?_, ?_, ?_, unindented_replace _⟩⟩
  · rw [requestLines target payload rfl]
    simp
  · rw [messageLines target payload rfl]
    simp
  · rw [snippetPayload_eq isPayload]
    exact Json.decode?_writeAt isPayload 1

/-- A payload with a line feed, quotes and spaces in a string, and with empty and nested parts. -/
def examplePayload : Value := .record [
  ("note".toList, .text "a\n  \"b\"".toList),
  ([], .list [.int (-3), .null, .list [], .record [("on".toList, .bool true)]])]

example : snippetPayload examplePayload = ("\x7b\n    \"note\": \"a\\n  \\\"b\\\"\",\n    \"\": [\n      -3,\n" ++
    "      null,\n      [],\n      \x7b\n        \"on\": true\n      \x7d\n    ]\n  \x7d").toList := by
  decide +kernel

/-- The target that the example is about. -/
def exampleTarget : CallTarget :=
  { kind := .sync, page := "chat".toList, name := "say".toList, version := "v2".toList }

theorem snippets_decode_example : IsPayload examplePayload ∧
    ∃ before after : Text, requestSnippet exampleTarget examplePayload = before ++
      ("\n  data: ".toList ++ (snippetPayload examplePayload ++ (",\n".toList ++ after))) ∧
    Json.decode? (snippetPayload examplePayload) = some examplePayload := by
  have items : ∀ item ∈ [Value.int (-3), .null, .list [], .record [("on".toList, .bool true)]],
      IsPayload item := by
    intro item member
    simp only [List.mem_cons, List.not_mem_nil, or_false] at member
    rcases member with rfl | rfl | rfl | rfl
    · exact .int (by decide)
    · exact .null
    · exact .list (by simp)
    · exact .record (by simp [IsPayload.bool])
  have isPayload : IsPayload examplePayload :=
    .record (List.forall_mem_cons.mpr ⟨.text _, List.forall_mem_singleton.mpr (.list items)⟩)
  obtain ⟨before, after, _, _, decode⟩ := snippets_decode exampleTarget
  obtain ⟨request, -, decoded, -⟩ := decode examplePayload isPayload
  exact ⟨isPayload, before, after, request, decoded⟩

end RouteCatalog
