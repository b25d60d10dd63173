import RouteCatalog.Snippet

/-!
# What snippets name

A snippet names its target in string literals of script code. `StringLiteral.read?` reads such a literal
with all of its escapes, and `NamesCall` says that the literals of both snippets denote what is called. Texts
are written between the quotes as they are, so this holds exactly if none of them has a character that a
literal cannot hold as it is (`namesCall_iff`). That no other text denotes itself by accident follows from
counting: an escape denotes fewer code units than it is written with (`length_le_of_readFrom?`).
-/

namespace RouteCatalog

/-- The UTF-16 code units of a code point. -/
def codeUnits (code : Nat) : List Nat :=
  if code < 0x10000 then [code]
  else [0xd800 + (code - 0x10000) / 0x400, 0xdc00 + (code - 0x10000) % 0x400]

/-- The UTF-16 code units of a text, of which the strings of scripts consist. -/
def utf16 (text : Text) : List Nat :=
  text.flatMap fun character => codeUnits character.toNat

namespace StringLiteral

/-- Where a reader stands in a literal. -/
inductive State where
  | content
  /-- Behind an escaped zero, which no digit may follow. -/
  | behindZero
  /-- Behind an escaped carriage return, to which a line feed belongs. -/
  | behindReturn
  | escaped
  /-- In an escape with so many more hexadecimal digits. -/
  | digits (missing code : Nat)
  /-- Behind the letter of an escape with four digits or with braces. -/
  | unicode
  /-- In the braces of an escape, with the value of the digits if there are any. -/
  | braced (code : Option Nat)
  deriving DecidableEq, Repr

/-- May the literal end here? -/
def State.isContent : State → Bool
  | content | behindZero | behindReturn => true
  | _ => false

/-- The code point of an escape of one character. -/
def escapedCode : Char → Nat
  | 'b' => 0x08
  | 't' => 0x09
  | 'n' => 0x0a
  | 'v' => 0x0b
  | 'f' => 0x0c
  | 'r' => 0x0d
  | character => character.toNat

/-- What a character of a literal in module code denotes and where it leads, unless it may not stand there.
The escapes with octal digits are not for modules. -/
def step? : State → Char → Option (List Nat × State)
  | .escaped, letter =>
    if letter = 'x' then some ([], .digits 2 0)
    else if letter = 'u' then some ([], .unicode)
    else if letter = '0' then some ([0], .behindZero)
    else if letter.isDigit then none
    else if letter = '\r' then some ([], .behindReturn)
    else if letter = '\n' ∨ letter = '\u2028' ∨ letter = '\u2029' then some ([], .content)
    else some (codeUnits (escapedCode letter), .content)
  | .digits missing code, digit =>
    (Json.hexValue? digit).map fun value =>
      if missing ≤ 1 then ([code * 16 + value], .content)
      else ([], .digits (missing - 1) (code * 16 + value))
  | .unicode, mark =>
    if mark = '{' then some ([], .braced none)
    else (Json.hexValue? mark).map fun value => ([], .digits 3 value)
  | .braced code, mark =>
    if mark = '}' then code.map fun code => (codeUnits code, .content)
    else
      match Json.hexValue? mark with
      | none => none
      | some value =>
        let next := code.getD 0 * 16 + value
        if next ≤ 0x10ffff then some ([], .braced (some next)) else none
  | state, character =>
    if character = '\\' then some ([], .escaped)
    else if character = '\n' then if state = .behindReturn then some ([], .content) else none
    else if character = '\r' then none
    else if state = .behindZero ∧ character.isDigit then none
    else some (codeUnits character.toNat, .content)

/-- The code units of the rest of a literal, and what follows its closing quote. -/
def readFrom? : State → Text → Option (List Nat × Text)
  | _, [] => none
  | state, character :: rest =>
    if state.isContent ∧ character = '\'' then some ([], rest)
    else
      match step? state character with
      | none => none
      | some (units, next) =>
        (readFrom? next rest).map fun (others, behind) => (units ++ others, behind)

/-- The code units that the literal denotes with which a text begins, and what follows the literal. -/
def read? : Text → Option (List Nat × Text)
  | '\'' :: rest => readFrom? .content rest
  | _ => none

/-- Nothing in the text would be read otherwise than as it is: no quote, no backslash and no end of a line. -/
def IsBare (text : Text) : Prop :=
  ∀ character ∈ text, character ∉ ['\'', '\\', '\n', '\r']

instance : DecidablePred IsBare := fun text => List.decidableBAll _ text

/-- The code units that the characters before owe: those of a code point in braces may be one more than the
closing brace. -/
def State.credit : State → Nat
  | braced _ => 1
  | _ => 0

/-- A code point has one code unit or two. -/
theorem length_codeUnits_le (code : Nat) :
    1 ≤ (codeUnits code).length ∧ (codeUnits code).length ≤ 2 := by
  unfold codeUnits
  split <;> simp

/-- An escape of one character has no more code units than the character. -/
theorem length_escapedCode_le (letter : Char) :
    (codeUnits (escapedCode letter)).length ≤ (codeUnits letter.toNat).length := by
  unfold escapedCode
  split <;> simp [codeUnits]

/-- A character denotes no more code units than it is written with. -/
theorem length_le_of_step? {state next : State} {character : Char} {units : List Nat}
    (step : step? state character = some (units, next)) :
    units.length + next.credit ≤ (codeUnits character.toNat).length + state.credit := by
  have written := length_codeUnits_le character.toNat
  cases state with
  | content | behindZero | behindReturn =>
    simp only [step?] at step
    repeat' split at step
    all_goals simp only [Option.some.injEq, Prod.mk.injEq, reduceCtorEq] at step
    all_goals obtain ⟨rfl, rfl⟩ := step
    all_goals simp [State.credit]
  | escaped =>
    have single := length_escapedCode_le character
    simp only [step?] at step
    repeat' split at step
    all_goals simp only [Option.some.injEq, Prod.mk.injEq, reduceCtorEq] at step
    all_goals obtain ⟨rfl, rfl⟩ := step
    all_goals simp only [List.length_nil, List.length_singleton, State.credit]; omega
  | digits missing code =>
    obtain ⟨value, -, step⟩ := Option.map_eq_some_iff.mp step
    split at step
    all_goals
      cases step
      simp only [List.length_nil, List.length_singleton, State.credit]
      omega
  | unicode =>
    simp only [step?] at step
    split at step
    · cases step
      simpa [State.credit] using written.1
    · obtain ⟨value, -, same⟩ := Option.map_eq_some_iff.mp step
      cases same
      simp [State.credit]
  | braced code =>
    simp only [step?] at step
    split at step
    · obtain ⟨code, -, same⟩ := Option.map_eq_some_iff.mp step
      cases same
      have denoted := length_codeUnits_le code
      simp only [State.credit]
      omega
    · split at step
      · cases step
      · split at step
        · cases step
          simp [State.credit]
        · cases step

/-- A literal denotes no more code units than are written between the quotes, wherever it ends. A quote
that is escaped does not help, since the line ends behind it. -/
theorem length_le_of_readFrom? {state : State} {text rest behind : Text} {units : List Nat}
    (read : readFrom? state (text ++ '\'' :: ',' :: '\n' :: rest) = some (units, behind)) :
    units.length ≤ (utf16 text).length + state.credit := by
  induction text generalizing state units with
  | nil =>
    cases state with
    | content | behindZero | behindReturn =>
      simp only [List.nil_append, readFrom?, State.isContent] at read
      obtain ⟨rfl, -⟩ := by simpa using read
      simp
    | escaped | digits | unicode | braced =>
      simp [readFrom?, step?, State.isContent, Json.hexValue?] at read
  | cons character text inductionHypothesis =>
    rw [List.cons_append, readFrom?] at read
    split at read
    · cases read
      simp
    · split at read
      · cases read
      · rename_i first next step
        obtain ⟨⟨others, _⟩, readRest, same⟩ := Option.map_eq_some_iff.mp read
        cases same
        have here := length_le_of_step? step
        have further := inductionHypothesis readRest
        simp only [utf16, List.flatMap_cons, List.length_append] at further ⊢
        omega

/-- A character that may stand as it is denotes itself. -/
theorem step?_content {character : Char} (bare : character ∉ ['\'', '\\', '\n', '\r']) :
    step? .content character = some (codeUnits character.toNat, .content) := by
  simp only [List.mem_cons, List.not_mem_nil, or_false, not_or] at bare
  simp [step?, bare]

/-- What may stand between quotes as it is denotes itself. -/
theorem readFrom?_of_isBare {text : Text} (bare : IsBare text) (rest : Text) :
    readFrom? .content (text ++ '\'' :: rest) = some (utf16 text, rest) := by
  induction text with
  | nil => simp [readFrom?, State.isContent, utf16]
  | cons character text inductionHypothesis =>
    obtain ⟨here, further⟩ := List.forall_mem_cons.mp bare
    have noQuote : character ≠ '\'' := fun quote => here (by simp [quote])
    simp [readFrom?, noQuote, step?_content here, inductionHypothesis further, utf16]

/-- What denotes itself on a line of its own may stand between quotes as it is. -/
theorem isBare_of_readFrom? {text rest behind : Text}
    (read : readFrom? .content (text ++ '\'' :: ',' :: '\n' :: rest) = some (utf16 text, behind)) :
    IsBare text := by
  induction text with
  | nil => simp [IsBare]
  | cons character text inductionHypothesis =>
    have written := length_codeUnits_le character.toNat
    by_cases here : character ∈ ['\'', '\\', '\n', '\r']
    · exfalso
      simp only [List.mem_cons, List.not_mem_nil, or_false] at here
      rcases here with rfl | rfl | rfl | rfl
      · simp [readFrom?, State.isContent, utf16, codeUnits] at read
      · -- The backslash denotes nothing, and what follows it no more than it is written with.
        rw [List.cons_append, readFrom?, if_neg (by decide)] at read
        have behindBackslash : readFrom? .escaped (text ++ '\'' :: ',' :: '\n' :: rest) =
            some (utf16 ('\\' :: text), behind) := by
          simpa [step?] using read
        have fewer := length_le_of_readFrom? behindBackslash
        simp only [utf16, List.flatMap_cons, List.length_append, State.credit] at fewer
        omega
      · simp [readFrom?, State.isContent, step?] at read
      · simp [readFrom?, State.isContent, step?] at read
    · have noQuote : character ≠ '\'' := fun quote => here (by simp [quote])
      rw [List.cons_append, readFrom?, if_neg (by simp [noQuote])] at read
      simp only [step?_content here, Option.map_eq_some_iff, Prod.mk.injEq] at read
      obtain ⟨⟨others, _⟩, readRest, same, rfl⟩ := read
      obtain rfl : others = utf16 text := List.append_cancel_left same
      exact List.forall_mem_cons.mpr ⟨here, inductionHypothesis readRest⟩

/-- A text between quotes at the end of a line denotes itself exactly if it may stand there as it is. -/
theorem read?_inQuotes_iff {text rest behind : Text} :
    read? (inQuotes text ++ ',' :: '\n' :: rest) = some (utf16 text, behind) ↔
      IsBare text ∧ behind = ',' :: '\n' :: rest := by
  have opened : read? (inQuotes text ++ ',' :: '\n' :: rest) =
      readFrom? .content (text ++ '\'' :: ',' :: '\n' :: rest) := by
    simp [inQuotes, read?]
  rw [opened]
  constructor
  · intro read
    have bare := isBare_of_readFrom? read
    rw [readFrom?_of_isBare bare] at read
    exact ⟨bare, (Prod.mk.inj (Option.some.inj read)).2.symm⟩
  · rintro ⟨bare, rfl⟩
    exact readFrom?_of_isBare bare _

example : read? "'it\\'s \\x41\\u\x7b1F600\x7d'.".toList = some (utf16 "it's A😀".toList, ['.']) := by
  decide +kernel

end StringLiteral

/-- Behind the first `mark` in the text there is a literal that denotes `content`, a comma and the end of the
line, and then `rest`. -/
def DenotedBehind (mark content text rest : Text) : Prop :=
  ∃ before following, Text.breakAt? mark text = some (before, following) ∧
    StringLiteral.read? following = some (utf16 content, ',' :: '\n' :: rest)

/-- Both snippets name what is called: the request its name in requests and then its version, the message its
route. -/
structure NamesCall (target : CallTarget) (payload : Value) : Prop where
  request : ∃ behindName behindVersion,
    DenotedBehind "name: ".toList target.requestName (requestSnippet target payload) behindName ∧
    DenotedBehind "version: ".toList target.version behindName behindVersion
  message : ∃ behindRoute,
    DenotedBehind "name: ".toList target.route (messageSnippet target payload) behindRoute

namespace StringLiteral

/-- A text with separators in it may stand between quotes as its parts may. -/
theorem isBare_separated {separator : Char} {front back : Text}
    (bare : separator ∉ ['\'', '\\', '\n', '\r']) :
    IsBare (front ++ separator :: back) ↔ IsBare front ∧ IsBare back := by
  simp only [IsBare, List.forall_mem_append, List.forall_mem_cons]
  exact ⟨fun ⟨first, _, second⟩ => ⟨first, second⟩, fun ⟨first, second⟩ => ⟨first, bare, second⟩⟩

/-- The name in requests may stand between quotes as it is exactly if page and name may. -/
theorem isBare_requestName (target : CallTarget) :
    IsBare target.requestName ↔ IsBare target.page ∧ IsBare target.name := by
  unfold CallTarget.requestName
  split
  · rename_i root
    have bareRoot : IsBare target.page := by
      rw [root]
      decide
    simp [bareRoot]
  · exact isBare_separated (by decide)

/-- The route may stand between quotes as it is exactly if its parts may. -/
theorem isBare_route (target : CallTarget) :
    IsBare target.route ↔ IsBare target.requestName ∧ IsBare target.version := by
  have bareLead : IsBare target.kind.lead := by
    cases target.kind <;> decide
  rw [CallTarget.route_eq_join]
  simp only [Text.join, List.append_assoc, List.singleton_append]
  rw [isBare_separated (by decide), isBare_separated (by decide)]
  simp [bareLead]

end StringLiteral

/-- A text between quotes behind the first mark, at the end of its line, is denoted exactly if it may stand
there as it is. -/
theorem denotedBehind_iff {mark before content following rest : Text}
    (first : Text.breakAt? mark (before ++ (mark ++ (inQuotes content ++ ',' :: '\n' :: following))) =
      some (before, inQuotes content ++ ',' :: '\n' :: following)) :
    DenotedBehind mark content (before ++ (mark ++ (inQuotes content ++ ',' :: '\n' :: following)))
      rest ↔ StringLiteral.IsBare content ∧ rest = following := by
  have read_iff : StringLiteral.read? (inQuotes content ++ ',' :: '\n' :: following) =
      some (utf16 content, ',' :: '\n' :: rest) ↔
        StringLiteral.IsBare content ∧ ',' :: '\n' :: rest = ',' :: '\n' :: following :=
    StringLiteral.read?_inQuotes_iff
  simp only [List.cons.injEq, true_and] at read_iff
  rw [← read_iff, DenotedBehind, first]
  constructor
  · rintro ⟨_, _, same, read⟩
    cases same
    exact read
  · exact fun read => ⟨_, _, rfl, read⟩

/-- Snippets name what is called exactly if page, name and version hold no single quote, no backslash and no
end of a line. -/
theorem namesCall_iff (target : CallTarget) (payload : Value) : NamesCall target payload ↔
    StringLiteral.IsBare target.page ∧ StringLiteral.IsBare target.name ∧
      StringLiteral.IsBare target.version := by
  obtain ⟨opening, closing, requestLines, requestFirst⟩ := exists_requestSnippet target.kind
  obtain ⟨opening', closing', messageLines, messageFirst⟩ := exists_messageSnippet target.kind
  have versionFirst : ∀ following, Text.breakAt? "version: ".toList
      ("  ".toList ++ ("version: ".toList ++ following)) = some ("  ".toList, following) :=
    fun following => rfl
  have bareName := StringLiteral.isBare_requestName target
  constructor
  · rintro ⟨⟨behindName, behindVersion, name, version⟩, -⟩
    rw [requestLines target payload rfl, denotedBehind_iff (requestFirst _)] at name
    obtain ⟨bare, rfl⟩ := name
    have bareVersion := ((denotedBehind_iff (versionFirst _)).mp version).1
    exact ⟨(bareName.mp bare).1, (bareName.mp bare).2, bareVersion⟩
  · rintro ⟨page, name, version⟩
    have bare := bareName.mpr ⟨page, name⟩
    have bareRoute := (StringLiteral.isBare_route target).mpr ⟨bare, version⟩
    constructor
    · rw [requestLines target payload rfl]
      exact ⟨_, _, (denotedBehind_iff (requestFirst _)).mpr ⟨bare, rfl⟩,
        (denotedBehind_iff (versionFirst _)).mpr ⟨version, rfl⟩⟩
    · rw [messageLines target payload rfl]
      exact ⟨_, (denotedBehind_iff (messageFirst _)).mpr ⟨bareRoute, rfl⟩⟩

/-- The apostrophe of a page ends the literal. -/
theorem not_namesCall_apostrophe : ¬NamesCall
    { kind := .api, page := "it's".toList, name := "list".toList, version := "v1".toList } .null := by
  rintro ⟨⟨behindName, -, name, -⟩, -⟩
  obtain ⟨opening, closing, lines, first⟩ := exists_requestSnippet .api
  rw [lines _ _ rfl, denotedBehind_iff (first _)] at name
  exact absurd (name.1 '\'' (by decide)) (by decide)

end RouteCatalog
