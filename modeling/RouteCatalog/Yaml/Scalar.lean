import RouteCatalog.Json.Quoted
import RouteCatalog.Yaml.Cursor
import RouteCatalog.Yaml.Fault

/-!
# Scalars

Reading the text of a scalar in each of its styles: quoted, plain, and as a block of lines. Line
ends inside a scalar fold: one becomes a space, several become one less. Every reader takes the
cursor at the scalar and gives the text and the cursor after it.
-/

namespace RouteCatalog

namespace Yaml

/-- Line ends with spaces and tabs around them, inside a quoted scalar. -/
def quotedBreaks : (fuel : Nat) → Cursor → Except Fault (Text × Cursor)
  | 0, cursor => .ok ([], cursor)
  | fuel + 1, cursor =>
    if cursor.atDocumentMark then .error .malformed
    else
      let cursor := cursor.skip fun character => character == ' ' || character == '\t'
      match cursor.lineBreak with
      | ([], _) => .ok ([], cursor)
      | (lineEnd, cursor) => do
        let (further, cursor) ← quotedBreaks fuel cursor
        return (lineEnd ++ further, cursor)

/-- What a line end and the empty lines after it contribute. -/
def folded (lineEnd further : Text) : Text :=
  if lineEnd ≠ ['\n'] then lineEnd ++ further else if further.isEmpty then [' '] else further

/-- Spaces, tabs and line ends inside a quoted scalar. -/
def quotedSpaces (cursor : Cursor) : Except Fault (Text × Cursor) := do
  let (spaces, cursor) := cursor.span fun character => character == ' ' || character == '\t'
  match cursor.peek with
  | none => throw .malformed
  | some _ =>
    match cursor.lineBreak with
    | ([], _) => return (spaces, cursor)
    | (lineEnd, cursor) => do
      let (further, cursor) ← quotedBreaks (cursor.rest.length + 1) cursor
      return (folded lineEnd further, cursor)

/-- The character of a one-letter escape. -/
def letterEscape? : Char → Option Char
  | '0' => some '\x00'
  | 'a' => some '\x07'
  | 'b' => some '\x08'
  | 't' => some '\t'
  | '\t' => some '\t'
  | 'n' => some '\n'
  | 'v' => some '\x0b'
  | 'f' => some '\x0c'
  | 'r' => some '\r'
  | 'e' => some '\x1b'
  | ' ' => some ' '
  | '"' => some '"'
  | '\\' => some '\\'
  | '/' => some '/'
  | 'N' => some '\x85'
  | '_' => some '\xa0'
  | 'L' => some '\u2028'
  | 'P' => some '\u2029'
  | _ => none

/-- The number of digits of a hexadecimal escape. -/
def escapeWidth? : Char → Option Nat
  | 'x' => some 2
  | 'u' => some 4
  | 'U' => some 8
  | _ => none

/-- Read an escape after its backslash. -/
def readEscape (cursor : Cursor) : Except Fault (Text × Cursor) :=
  match cursor.peek with
  | none => .error .malformed
  | some letter =>
    match letterEscape? letter with
    | some character => .ok ([character], cursor.next)
    | none =>
      match escapeWidth? letter with
      | some width =>
        let digits := cursor.next.rest.take width
        match digits.mapM Json.hexValue? with
        | some values =>
          let code := values.foldl (fun total digit => 16 * total + digit) 0
          if digits.length ≠ width then .error .malformed
          else if code ≤ 0x10ffff then .ok ([Char.ofNat code], cursor.next.advance width)
          else .error (if code < 0x80000000 then .unreadable else .beyondRange)
        | none => .error .malformed
      | none =>
        if isBreak letter then quotedBreaks (cursor.rest.length + 1) cursor.lineBreak.2
        else .error .malformed

/-- Is the character part of a quoted scalar as it stands? -/
def isQuotedSpace (character : Char) : Bool :=
  character == ' ' || character == '\t' || isBreak character

/-- Read a quoted scalar after its opening mark. A single quote is doubled inside single quotes; a
backslash begins an escape inside double quotes. -/
def readQuoted (double : Bool) : (fuel : Nat) → Cursor → Except Fault (Text × Cursor)
  | 0, _ => .error .malformed
  | fuel + 1, cursor =>
    match cursor.peek with
    | none => .error .malformed
    | some character =>
      if character = (if double then '"' else '\'') then
        if !double && cursor.peekAt 1 == some '\'' then do
          let (further, cursor) ← readQuoted double fuel (cursor.advance 2)
          return ('\'' :: further, cursor)
        else .ok ([], cursor.next)
      else do
        let (piece, cursor) ←
          if double && character == '\\' then readEscape cursor.next
          else if isQuotedSpace character then quotedSpaces cursor
          else .ok ([character], cursor.next)
        let (further, cursor) ← readQuoted double fuel cursor
        return (piece ++ further, cursor)

/-- Are brackets, braces and commas marks of a flow collection here? -/
def isFlowMark (character : Char) : Bool :=
  character == ',' || character == '[' || character == ']' || character == '{' || character == '}'

/-- Does a plain scalar end before a character, given the character after it? -/
def endsPlain (inFlow : Bool) (character : Char) (following : Option Char) : Bool :=
  isGap (some character) ||
    (character == ':' && (isGap following || (inFlow && following.any isFlowMark))) ||
    (inFlow && (character == '?' || isFlowMark character))

/-- The characters of a plain scalar up to the next gap. -/
def plainWord (inFlow : Bool) : Text → Text
  | [] => []
  | character :: rest =>
    if endsPlain inFlow character rest.head? then [] else character :: plainWord inFlow rest

/-- Line ends with spaces around them after a line end of a plain scalar; nothing before a mark
between documents. -/
def plainBreaks : (fuel : Nat) → Cursor → Option Text × Cursor
  | 0, cursor => (some [], cursor)
  | fuel + 1, cursor =>
    if cursor.atDocumentMark then (none, cursor)
    else
      let cursor := cursor.skip (· == ' ')
      match cursor.lineBreak with
      | ([], _) => (some [], cursor)
      | (lineEnd, cursor) =>
        let (further?, cursor) := plainBreaks fuel cursor
        (further?.map (lineEnd ++ ·), cursor)

/-- A plain scalar, or a part of one. -/
structure PlainRead where
  text : Text
  cursor : Cursor
  /-- Has a line end been read after the last word? -/
  brokeLine : Bool

/-- Spaces or line ends between the words of a plain scalar. -/
def plainSpaces (cursor : Cursor) : PlainRead :=
  let (spaces, cursor) := cursor.span (· == ' ')
  match cursor.lineBreak with
  | ([], _) => { text := spaces, cursor, brokeLine := false }
  | (lineEnd, cursor) =>
    let (further?, cursor) := plainBreaks (cursor.rest.length + 1) cursor
    match further? with
    | none => { text := [], cursor, brokeLine := true }
    | some further => { text := folded lineEnd further, cursor, brokeLine := true }

/-- Read a plain scalar. Outside flow collections its further lines are indented at least as much as
`indent` says. -/
def readPlain (inFlow : Bool) (indent : Int) : (fuel : Nat) → (spaces : PlainRead) → PlainRead
  | 0, spaces => { spaces with text := [] }
  | fuel + 1, spaces =>
    let word := plainWord inFlow spaces.cursor.rest
    if spaces.cursor.peek = some '#' ∨ word.isEmpty then { spaces with text := [] }
    else
      let following := plainSpaces (spaces.cursor.advance word.length)
      let ended := following.text.isEmpty ∨ (!inFlow ∧ (following.cursor.column : Int) < indent)
      if ended then { following with text := spaces.text ++ word }
      else
        let further := readPlain inFlow indent fuel following
        { further with text := spaces.text ++ word ++ further.text }

/-- What becomes of the line ends after a block of lines. -/
inductive Chomping where
  | clip
  | strip
  | keep
  deriving DecidableEq, Repr

/-- What a character after the mark of a block says about its line ends. -/
def chomping? : Option Char → Option Chomping
  | some '+' => some .keep
  | some '-' => some .strip
  | _ => none

/-- The width of indentation that a digit after the mark of a block states; zero is refused. -/
def blockIncrement (cursor : Cursor) : Except Fault (Option Nat × Cursor) :=
  match cursor.peek with
  | some '0' => .error .malformed
  | some character =>
    if character.isDigit then .ok (some (character.toNat - 48), cursor.next) else .ok (none, cursor)
  | none => .ok (none, cursor)

/-- Read the header of a block, up to the end of its line. -/
def blockHeader (cursor : Cursor) : Except Fault (Chomping × Option Nat × Cursor) := do
  let (chomping, increment, cursor) ←
    match chomping? cursor.peek with
    | some chomping => do
      let (increment, cursor) ← blockIncrement cursor.next
      pure (chomping, increment, cursor)
    | none => do
      let (increment, cursor) ← blockIncrement cursor
      match increment, chomping? cursor.peek with
      | some _, some chomping => pure (chomping, increment, cursor.next)
      | _, _ => pure (Chomping.clip, increment, cursor)
  if !isSpaceOrEnd cursor.peek then throw .malformed
  let cursor := (cursor.skip (· == ' ')).skipComment
  if isLineEnd cursor.peek then return (chomping, increment, cursor.lineBreak.2)
  else throw .malformed

/-- Go past at most as many spaces as lead to a column. -/
def skipIndent (indent : Nat) (cursor : Cursor) : Cursor :=
  let spaces := (cursor.rest.takeWhile (· == ' ')).length
  cursor.advance (min spaces (indent - cursor.column))

/-- Empty lines of a block, and the indentation before the next line of it. -/
def blockBreaks (indent : Nat) : (fuel : Nat) → Cursor → Text × Cursor
  | 0, cursor => ([], cursor)
  | fuel + 1, cursor =>
    let cursor := skipIndent indent cursor
    match cursor.lineBreak with
    | ([], _) => ([], cursor)
    | (lineEnd, cursor) =>
      let (further, cursor) := blockBreaks indent fuel cursor
      (lineEnd ++ further, cursor)

/-- Leading empty lines of a block and its first indentation, of which the widest counts. -/
def blockIndentation : (fuel : Nat) → (widest : Nat) → Cursor → Text × Nat × Cursor
  | 0, widest, cursor => ([], widest, cursor)
  | fuel + 1, widest, cursor =>
    let cursor := cursor.skip (· == ' ')
    let widest := max widest cursor.column
    match cursor.lineBreak with
    | ([], _) => ([], widest, cursor)
    | (lineEnd, cursor) =>
      let (further, widest, cursor) := blockIndentation fuel widest cursor
      (lineEnd ++ further, widest, cursor)

/-- Is there a space or a tab here? -/
def atWhite (cursor : Cursor) : Bool :=
  cursor.peek == some ' ' || cursor.peek == some '\t'

/-- The lines of a block at its indentation, given the line ends before the next one. -/
def blockLines (fold : Bool) (chomping : Chomping) (indent : Nat) :
    (fuel : Nat) → (before lineEnd : Text) → Cursor → Text × Cursor
  | 0, _, _, cursor => ([], cursor)
  | fuel + 1, before, lineEnd, cursor =>
    if cursor.column = indent ∧ cursor.peek.isSome then
      let startsWhite := atWhite cursor
      let (line, cursor) := cursor.span fun character => !isBreak character
      let (lineEnd, cursor) := cursor.lineBreak
      let (breaks, cursor) := blockBreaks indent (cursor.rest.length + 1) cursor
      let goesOn := cursor.column = indent ∧ cursor.peek.isSome
      let joint : Text :=
        if !goesOn then []
        else if fold ∧ lineEnd = ['\n'] ∧ !startsWhite ∧ !atWhite cursor then
          if breaks.isEmpty then [' '] else []
        else lineEnd
      let (further, after) := blockLines fold chomping indent fuel breaks lineEnd cursor
      (before ++ line ++ joint ++ further, after)
    else
      let ending : Text :=
        match chomping with
        | .strip => []
        | .clip => lineEnd
        | .keep => lineEnd ++ before
      (ending, cursor)

/-- Read a block of lines after its mark, inside the given indentation. -/
def readBlock (fold : Bool) (parentIndent : Int) (cursor : Cursor) :
    Except Fault (Text × Cursor) := do
  let (chomping, increment, cursor) ← blockHeader cursor
  let least := max 1 (parentIndent + 1).toNat
  let fuel := cursor.rest.length + 1
  match increment with
  | none =>
    let (breaks, widest, cursor) := blockIndentation fuel 0 cursor
    return blockLines fold chomping (max least widest) fuel breaks [] cursor
  | some increment =>
    let indent := least + increment - 1
    let (breaks, cursor) := blockBreaks indent fuel cursor
    return blockLines fold chomping indent fuel breaks [] cursor

end Yaml

end RouteCatalog
