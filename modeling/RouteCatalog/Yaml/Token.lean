import RouteCatalog.Number.Decimal
import RouteCatalog.Text.Utf8
import RouteCatalog.Yaml.Scalar

/-!
# Tokens of a configuration text

`TokenStream.ofText` cuts a text into tokens. Block structure follows from indentation: a deeper
column opens a block, a shallower one closes it. Whether a scalar is a key is known only at the colon
behind it, so the place of each token that may begin a key is remembered, and the marks of a key are
put there once the colon is seen. Such a colon stands on the same line, at most 1024 characters
further on. Where the cutting fails, the tokens before the fault that are certain by then remain.
-/

namespace RouteCatalog

namespace Yaml

/-- A token. -/
inductive Token where
  | versionDirective (major : Text)
  | tagDirective (handle lead : Text)
  | otherDirective
  | documentStart
  | documentEnd
  | blockSequenceStart
  | blockMappingStart
  | blockEnd
  | flowSequenceStart
  | flowSequenceEnd
  | flowMappingStart
  | flowMappingEnd
  | blockEntry
  | flowEntry
  | key
  | value
  | alias (name : Text)
  | anchor (name : Text)
  | tag (handle : Option Text) (suffix : Text)
  | scalar (text : Text) (plain : Bool)
  deriving DecidableEq, Repr

/-- A token that may turn out to begin a key. -/
structure PossibleKey where
  /-- Must a colon follow, because the token stands where only a key may? -/
  required : Bool
  /-- The number of tokens before it. -/
  tokenNumber : Nat
  index : Nat
  line : Nat
  column : Nat
  deriving DecidableEq, Repr

/-- Cutting a text into tokens, in progress. -/
structure Tokenizer where
  cursor : Cursor
  /-- The tokens so far, last first. -/
  emitted : List Token := []
  /-- The columns of the open blocks, innermost first. -/
  indents : List Int := [-1]
  /-- The possible keys of the open flow collections, innermost first, and of the block around
  them. -/
  possible : List (Option PossibleKey) := [none]
  /-- May a key begin here? -/
  keyAllowed : Bool := true
  deriving Repr

namespace Tokenizer

/-- The number of open flow collections. -/
def flowLevel (state : Tokenizer) : Nat :=
  state.possible.length - 1

/-- Is the text inside a flow collection? -/
def inFlow (state : Tokenizer) : Bool :=
  state.flowLevel != 0

/-- The column of the innermost block. -/
def indent (state : Tokenizer) : Int :=
  state.indents.head?.getD (-1)

/-- Add a token at the end. -/
def emit (state : Tokenizer) (token : Token) : Tokenizer :=
  { state with emitted := token :: state.emitted }

/-- Put tokens in at a place among those there are. -/
def insertAt (state : Tokenizer) (tokenNumber : Nat) (tokens : List Token) : Tokenizer :=
  let later := state.emitted.length - tokenNumber
  { state with
    emitted := state.emitted.take later ++ tokens.reverse ++ state.emitted.drop later }

/-- The possible key at the innermost level. -/
def currentKey (state : Tokenizer) : Option PossibleKey :=
  state.possible.head?.join

/-- Replace the possible key at the innermost level. -/
def withKey (state : Tokenizer) (key : Option PossibleKey) : Tokenizer :=
  { state with possible := key :: state.possible.drop 1 }

/-- Give up the possible key at the innermost level; a required one is missing its colon. -/
def dropKey (state : Tokenizer) : Except Fault Tokenizer :=
  if state.currentKey.any (·.required) then .error .malformed else .ok (state.withKey none)

/-- Remember that the next token may begin a key. -/
def saveKey (state : Tokenizer) : Except Fault Tokenizer :=
  if state.keyAllowed then do
    let required := !state.inFlow && state.indent == (state.cursor.column : Int)
    let state ← state.dropKey
    return state.withKey (some {
      required
      tokenNumber := state.emitted.length
      index := state.cursor.index
      line := state.cursor.line
      column := state.cursor.column })
  else .ok state

/-- Can the colon of a possible key no longer come? -/
def isStale (cursor : Cursor) (key : PossibleKey) : Bool :=
  key.line != cursor.line || 1024 < cursor.index - key.index

/-- Give up the possible keys whose colon can no longer come. -/
def dropStaleKeys (state : Tokenizer) : Except Fault Tokenizer := do
  let possible ← state.possible.mapM fun key? =>
    match key? with
    | some key =>
      if isStale state.cursor key then
        if key.required then throw Fault.malformed else pure none
      else pure (some key)
    | none => pure none
  return { state with possible }

/-- Close the blocks that are deeper than a column. -/
def closeBlocks (state : Tokenizer) (column : Int) : Tokenizer :=
  if state.inFlow then state
  else
    let closed := (state.indents.takeWhile (column < ·)).length
    { state with
      indents := state.indents.drop closed
      emitted := List.replicate closed .blockEnd ++ state.emitted }

/-- Open a block at a column that is deeper than the innermost one; tell whether it was. -/
def openBlock (state : Tokenizer) (column : Nat) : Bool × Tokenizer :=
  if state.indent < (column : Int) then (true, { state with indents := column :: state.indents })
  else (false, state)

/-- Go past spaces, comments and line ends to the next token. A byte order mark at the very beginning
is passed over; after a line end outside flow collections a key may begin. -/
def skipToToken : (fuel : Nat) → Tokenizer → Tokenizer
  | 0, state => state
  | fuel + 1, state =>
    let cursor := (state.cursor.skip (· == ' ')).skipComment
    match cursor.lineBreak with
    | ([], _) => { state with cursor }
    | (_, cursor) =>
      skipToToken fuel { state with cursor, keyAllowed := state.keyAllowed || !state.inFlow }

/-- Go past some characters. -/
def advance (state : Tokenizer) (count : Nat) : Tokenizer :=
  { state with cursor := state.cursor.advance count }

/-- The end of the text: every block is closed. -/
def finish (state : Tokenizer) : Except Fault Tokenizer :=
  (state.closeBlocks (-1)).dropKey

/-- Go past the rest of the line of a directive. -/
def directiveEnd (cursor : Cursor) : Except Fault Cursor :=
  let cursor := (cursor.skip (· == ' ')).skipComment
  if isLineEnd cursor.peek then .ok cursor.lineBreak.2 else .error .malformed

/-- A handle of a tag: exclamation marks around a name, or one alone. -/
def tagHandle (cursor : Cursor) : Except Fault (Text × Cursor) :=
  if cursor.peek ≠ some '!' then .error .malformed
  else
    let (name, after) := cursor.next.span isNameCharacter
    if cursor.peekAt 1 = some ' ' then .ok (['!'], cursor.next)
    else if after.peek = some '!' then .ok ('!' :: name ++ ['!'], after.next)
    else .error .malformed

/-- May the character stand in a tag? -/
def isTagCharacter (character : Char) : Bool :=
  character.isAlphanum || "-;/?:@&=+$,_.!~*'()[]%".toList.contains character

/-- The text of a tag after some escaped bytes, which are given last first. A percent sign and two
hexadecimal digits are an escaped byte; bytes side by side have to encode characters. -/
def unescapeTag? (bytes : List UInt8) : Text → Option Text
  | '%' :: high :: low :: rest => do
    let byte := 16 * (← Json.hexValue? high) + (← Json.hexValue? low)
    unescapeTag? (byte.toUInt8 :: bytes) rest
  | [] => (Utf8.decode bytes.reverse).toOption
  | character :: rest => do
    if character = '%' then none
    let escaped ← (Utf8.decode bytes.reverse).toOption
    return escaped ++ character :: (← unescapeTag? [] rest)

/-- The text of a tag. -/
def tagText (cursor : Cursor) : Except Fault (Text × Cursor) :=
  let (written, cursor) := cursor.span isTagCharacter
  if written.isEmpty then .error .malformed
  else
    match unescapeTag? [] written with
    | some text => .ok (text, cursor)
    | none => .error .malformed

/-- A number of a version. -/
def versionNumber (cursor : Cursor) : Except Fault (Text × Cursor) :=
  let (digits, cursor) := cursor.span Char.isDigit
  if digits.isEmpty then .error .malformed
  else if maxIntegerDigits < digits.length then .error .unreadable
  else .ok (digits, cursor)

/-- The directive of a version: a major and a minor number. -/
def versionDirective (cursor : Cursor) : Except Fault (Token × Cursor) := do
  let (major, cursor) ← versionNumber (cursor.skip (· == ' '))
  if cursor.peek ≠ some '.' then throw .malformed
  let (_, cursor) ← versionNumber cursor.next
  if !isSpaceOrEnd cursor.peek then throw .malformed
  return (.versionDirective major, cursor)

/-- The directive of a tag: a handle and what it stands for. -/
def tagDirective (cursor : Cursor) : Except Fault (Token × Cursor) := do
  let (handle, cursor) ← tagHandle (cursor.skip (· == ' '))
  if cursor.peek ≠ some ' ' then throw .malformed
  let (lead, cursor) ← tagText (cursor.skip (· == ' '))
  if !isSpaceOrEnd cursor.peek then throw .malformed
  return (.tagDirective handle lead, cursor)

/-- A directive, which takes the whole line. -/
def directive (state : Tokenizer) : Except Fault Tokenizer := do
  let state ← state.finish
  let (name, cursor) := state.cursor.next.span isNameCharacter
  if name.isEmpty ∨ !isSpaceOrEnd cursor.peek then throw .malformed
  let (token, cursor) ←
    if name = "YAML".toList then versionDirective cursor
    else if name = "TAG".toList then tagDirective cursor
    else pure (Token.otherDirective, cursor.skip fun character => !isBreak character)
  let cursor ← directiveEnd cursor
  return { state with cursor, keyAllowed := false }.emit token

/-- A mark between documents. -/
def documentMark (state : Tokenizer) (token : Token) : Except Fault Tokenizer := do
  let state ← state.finish
  return ({ state with keyAllowed := false }.advance 3).emit token

/-- The beginning of a flow collection. -/
def flowStart (state : Tokenizer) (token : Token) : Except Fault Tokenizer := do
  let state ← state.saveKey
  return ({ state with possible := none :: state.possible, keyAllowed := true }.advance 1).emit token

/-- The end of a flow collection; there must be one. -/
def flowEnd (state : Tokenizer) (token : Token) : Except Fault Tokenizer := do
  let state ← state.dropKey
  if !state.inFlow then throw .malformed
  return ({ state with possible := state.possible.drop 1, keyAllowed := false }.advance 1).emit token

/-- The comma of a flow collection. -/
def flowEntry (state : Tokenizer) : Except Fault Tokenizer := do
  let state ← state.dropKey
  return ({ state with keyAllowed := true }.advance 1).emit .flowEntry

/-- Open a block at the cursor where one may begin and is not open yet. -/
def openAtCursor (state : Tokenizer) (token : Token) : Except Fault Tokenizer :=
  if state.inFlow then .ok state
  else if !state.keyAllowed then .error .malformed
  else
    match state.openBlock state.cursor.column with
    | (true, state) => .ok (state.emit token)
    | (false, state) => .ok state

/-- The hyphen of a sequence. -/
def blockEntry (state : Tokenizer) : Except Fault Tokenizer := do
  let state ← state.openAtCursor .blockSequenceStart
  let state ← { state with keyAllowed := true }.dropKey
  return (state.advance 1).emit .blockEntry

/-- The question mark of a key. -/
def explicitKey (state : Tokenizer) : Except Fault Tokenizer := do
  let state ← state.openAtCursor .blockMappingStart
  let state ← { state with keyAllowed := !state.inFlow }.dropKey
  return (state.advance 1).emit .key

/-- The colon of a value: it makes a key of the possible key before it. -/
def value (state : Tokenizer) : Except Fault Tokenizer :=
  match state.currentKey with
  | some key =>
    let state := state.withKey none
    let (opened, state) := if state.inFlow then (false, state) else state.openBlock key.column
    let marks := if opened then [Token.blockMappingStart, .key] else [.key]
    let state := state.insertAt key.tokenNumber marks
    .ok (({ state with keyAllowed := false }.advance 1).emit .value)
  | none => do
    let state ← state.openAtCursor .blockMappingStart
    let state ← { state with keyAllowed := !state.inFlow }.dropKey
    return (state.advance 1).emit .value

/-- A name after a star or an ampersand. -/
def named (state : Tokenizer) (token : Text → Token) : Except Fault Tokenizer := do
  let state ← state.saveKey
  let (name, cursor) := state.cursor.next.span isNameCharacter
  let ends := isGap cursor.peek || cursor.peek.any "?:,]\x7d%@\x60".toList.contains
  if name.isEmpty ∨ !ends then throw .malformed
  return { state with cursor, keyAllowed := false }.emit (token name)

/-- A tag in one of its forms. -/
def tag (state : Tokenizer) : Except Fault Tokenizer := do
  let state ← state.saveKey
  let cursor := state.cursor
  let (handle, suffix, cursor) ←
    if cursor.peekAt 1 = some '<' then do
      let (suffix, cursor) ← tagText (cursor.advance 2)
      if cursor.peek ≠ some '>' then throw .malformed
      pure (none, suffix, cursor.next)
    else if isGap (cursor.peekAt 1) then pure (none, ['!'], cursor.next)
    else do
      let word := (cursor.rest.drop 1).takeWhile fun character => !isSpaceOrEnd (some character)
      let (handle, cursor) ←
        if word.contains '!' then tagHandle cursor else pure (['!'], cursor.next)
      let (suffix, cursor) ← tagText cursor
      pure (some handle, suffix, cursor)
  if !isSpaceOrEnd cursor.peek then throw .malformed
  return { state with cursor, keyAllowed := false }.emit (.tag handle suffix)

/-- A block of lines. -/
def block (state : Tokenizer) (fold : Bool) : Except Fault Tokenizer := do
  let state ← { state with keyAllowed := true }.dropKey
  let (text, cursor) ← readBlock fold state.indent state.cursor.next
  return { state with cursor }.emit (.scalar text false)

/-- A quoted scalar. -/
def quoted (state : Tokenizer) (double : Bool) : Except Fault Tokenizer := do
  let state ← state.saveKey
  let cursor := state.cursor.next
  let (text, cursor) ← readQuoted double (cursor.rest.length + 1) cursor
  return { state with cursor, keyAllowed := false }.emit (.scalar text false)

/-- A plain scalar. -/
def plain (state : Tokenizer) : Except Fault Tokenizer := do
  let state ← state.saveKey
  let read := readPlain state.inFlow (state.indent + 1) (state.cursor.rest.length + 1)
    { text := [], cursor := state.cursor, brokeLine := false }
  return { state with cursor := read.cursor, keyAllowed := read.brokeLine }.emit
    (.scalar read.text true)

/-- May a plain scalar begin with a character, given the one after it? -/
def startsPlain (inFlow : Bool) (character : Char) (following : Option Char) : Bool :=
  if "-?:,[]\x7b\x7d#&*!|>'\"%@\x60".toList.contains character then
    !isGap following && (character == '-' || (!inFlow && (character == '?' || character == ':')))
  else !isGap (some character)

/-- Read one token where the text goes on with a character. -/
def token (state : Tokenizer) (character : Char) : Except Fault Tokenizer :=
  let gapFollows := isGap (state.cursor.peekAt 1)
  let atLineStart := state.cursor.column = 0
  if character = '%' ∧ atLineStart then state.directive
  else if atLineStart ∧ state.cursor.atMark '-' then state.documentMark .documentStart
  else if atLineStart ∧ state.cursor.atMark '.' then state.documentMark .documentEnd
  else if character = '[' then state.flowStart .flowSequenceStart
  else if character = '{' then state.flowStart .flowMappingStart
  else if character = ']' then state.flowEnd .flowSequenceEnd
  else if character = '}' then state.flowEnd .flowMappingEnd
  else if character = ',' then state.flowEntry
  else if character = '-' ∧ gapFollows then state.blockEntry
  else if character = '?' ∧ (state.inFlow ∨ gapFollows) then state.explicitKey
  else if character = ':' ∧ (state.inFlow ∨ gapFollows) then state.value
  else if character = '*' then state.named .alias
  else if character = '&' then state.named .anchor
  else if character = '!' then state.tag
  else if character = '|' ∧ !state.inFlow then state.block false
  else if character = '>' ∧ !state.inFlow then state.block true
  else if character = '\'' then state.quoted false
  else if character = '"' then state.quoted true
  else if startsPlain state.inFlow character (state.cursor.peekAt 1) then state.plain
  else .error .malformed

/-- Read one more token, or at the end of the text close every block; tell whether it was the
end. -/
def fetch (state : Tokenizer) : Except Fault (Tokenizer × Bool) := do
  let state := skipToToken (state.cursor.rest.length + 1) state
  let state ← state.dropStaleKeys
  let state := state.closeBlocks state.cursor.column
  match state.cursor.peek with
  | none => return (← state.finish, true)
  | some character => return (← state.token character, false)

/-- The tokens so far that no key can be put before any more. -/
def certain (state : Tokenizer) : List Token :=
  let places := state.possible.filterMap fun key? =>
    (key?.filter (!isStale state.cursor ·)).map (·.tokenNumber)
  state.emitted.reverse.take (places.foldl min state.emitted.length)

end Tokenizer

/-- The tokens of a text, up to a fault in it. -/
structure TokenStream where
  tokens : List Token
  /-- What is found behind the tokens; nothing if the text ends there. -/
  fault? : Option Fault := none

namespace TokenStream

/-- Read all tokens; every token but the last takes a character. -/
def read : (fuel : Nat) → Tokenizer → TokenStream
  | 0, _ => { tokens := [], fault? := some .malformed }
  | fuel + 1, state =>
    match state.fetch with
    | .error fault => { tokens := state.certain, fault? := some fault }
    | .ok (state, true) => { tokens := state.emitted.reverse }
    | .ok (state, false) => read fuel state

/-- The tokens of a text. -/
def ofText (text : Text) : TokenStream :=
  let start : Cursor := { rest := text }
  let start := if start.peek = some '\ufeff' then start.next else start
  read (text.length + 2) { cursor := start }

end TokenStream

end Yaml

end RouteCatalog
