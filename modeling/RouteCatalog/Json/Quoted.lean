import RouteCatalog.Text.Quoted

/-!
# JSON strings

`quote` escapes the quote, the backslash and the control characters, and copies everything else.
`readQuoted?` reads any JSON string after its opening quote, with all escapes of the format;
escapes that name half of a surrogate pair must come in pairs. `readQuoted?_quoteBody` states that
reading undoes writing.
-/

namespace RouteCatalog

namespace Json

/-- One character inside a JSON string. -/
def escape (character : Char) : Text :=
  if character = '"' then ['\\', '"']
  else if character = '\\' then ['\\', '\\']
  else if character = '\n' then ['\\', 'n']
  else if character = '\r' then ['\\', 'r']
  else if character = '\t' then ['\\', 't']
  else if character = '\x08' then ['\\', 'b']
  else if character = '\x0c' then ['\\', 'f']
  else if character.toNat < 0x20 then '\\' :: 'u' :: Text.hexadecimal 4 character.toNat
  else [character]

/-- The characters between the quotes. -/
def quoteBody (text : Text) : Text :=
  text.flatMap escape

/-- A text as a JSON string. -/
def quote (text : Text) : Text :=
  '"' :: quoteBody text ++ ['"']

/-- The value of a hexadecimal digit of either case. -/
def hexValue? (character : Char) : Option Nat :=
  let code := character.toNat
  if 48 ≤ code ∧ code ≤ 57 then some (code - 48)
  else if 97 ≤ code ∧ code ≤ 102 then some (code - 87)
  else if 65 ≤ code ∧ code ≤ 70 then some (code - 55)
  else none

/-- The character that a one-letter escape stands for. -/
def simpleEscape? : Char → Option Char
  | '"' => some '"'
  | '\\' => some '\\'
  | '/' => some '/'
  | 'b' => some '\x08'
  | 'f' => some '\x0c'
  | 'n' => some '\n'
  | 'r' => some '\r'
  | 't' => some '\t'
  | _ => none

/-- Is the code one of the first halves of surrogate pairs? -/
def isHighSurrogate (code : Nat) : Bool :=
  0xd800 ≤ code && code < 0xdc00

/-- Is the code one of the second halves of surrogate pairs? -/
def isLowSurrogate (code : Nat) : Bool :=
  0xdc00 ≤ code && code < 0xe000

/-- Put one more character before a text that was read. -/
def withCharacter (character : Char) (read : Option (Text × Text)) : Option (Text × Text) :=
  read.map fun (text, following) => (character :: text, following)

/-- What the next character of a JSON string belongs to. -/
inductive StringState where
  | plain
  /-- An escape, after its backslash. -/
  | escaped
  /-- A hexadecimal escape with this many digits still to come after the next one. -/
  | digits (high : Option Nat) (remaining code : Nat)
  /-- The backslash of the second half of a surrogate pair. -/
  | pairBackslash (high : Nat)
  /-- The letter of the second half of a surrogate pair. -/
  | pairLetter (high : Nat)
  deriving DecidableEq, Repr

/-- The character of a surrogate pair. -/
def pairCharacter (high low : Nat) : Char :=
  Char.ofNat ((high - 0xd800) * 0x400 + (low - 0xdc00) + 0x10000)

/-- Read a JSON string from a place inside it, and what follows its closing quote. -/
def readStringFrom : StringState → Text → Option (Text × Text)
  | _, [] => none
  | .plain, character :: rest =>
    if character = '"' then some ([], rest)
    else if character = '\\' then readStringFrom .escaped rest
    else if character.toNat < 0x20 then none
    else withCharacter character (readStringFrom .plain rest)
  | .escaped, letter :: rest =>
    if letter = 'u' then readStringFrom (.digits none 3 0) rest
    else
      match simpleEscape? letter with
      | some character => withCharacter character (readStringFrom .plain rest)
      | none => none
  | .digits high remaining code, digit :: rest =>
    match hexValue? digit with
    | none => none
    | some value =>
      let code := code * 16 + value
      if remaining ≠ 0 then readStringFrom (.digits high (remaining - 1) code) rest
      else
        match high with
        | some high =>
          if isLowSurrogate code then
            withCharacter (pairCharacter high code) (readStringFrom .plain rest)
          else none
        | none =>
          if isLowSurrogate code then none
          else if isHighSurrogate code then readStringFrom (.pairBackslash code) rest
          else withCharacter (Char.ofNat code) (readStringFrom .plain rest)
  | .pairBackslash high, character :: rest =>
    if character = '\\' then readStringFrom (.pairLetter high) rest else none
  | .pairLetter high, letter :: rest =>
    if letter = 'u' then readStringFrom (.digits (some high) 3 0) rest else none

/-- Read a JSON string after its opening quote, and what follows its closing quote. -/
def readQuoted? (text : Text) : Option (Text × Text) :=
  readStringFrom .plain text

/-- Reading one escaped character gives that character and goes on behind it. -/
theorem readQuoted?_escape (character : Char) (rest : Text) :
    readQuoted? (escape character ++ rest) = withCharacter character (readQuoted? rest) := by
  by_cases control : character.toNat < 0x20
  · have checked : ∀ code, code < 0x20 → readQuoted? (escape (Char.ofNat code) ++ rest) =
        withCharacter (Char.ofNat code) (readQuoted? rest) := by
      intro code small
      match code, small with
      | 0, _ | 1, _ | 2, _ | 3, _ | 4, _ | 5, _ | 6, _ | 7, _ | 8, _ | 9, _ | 10, _ | 11, _
      | 12, _ | 13, _ | 14, _ | 15, _ | 16, _ | 17, _ | 18, _ | 19, _ | 20, _ | 21, _ | 22, _
      | 23, _ | 24, _ | 25, _ | 26, _ | 27, _ | 28, _ | 29, _ | 30, _ | 31, _ => rfl
      | _ + 32, tooLarge => exact absurd tooLarge (by omega)
    simpa [Char.ofNat_toNat] using checked character.toNat control
  · by_cases quote : character = '"'
    · subst quote; rfl
    · by_cases backslash : character = '\\'
      · subst backslash; rfl
      · have plain : escape character = [character] := by
          have notLineFeed : character ≠ '\n' := by rintro rfl; exact control (by decide)
          have notReturn : character ≠ '\r' := by rintro rfl; exact control (by decide)
          have notTab : character ≠ '\t' := by rintro rfl; exact control (by decide)
          have notBackspace : character ≠ '\x08' := by rintro rfl; exact control (by decide)
          have notFormFeed : character ≠ '\x0c' := by rintro rfl; exact control (by decide)
          simp [escape, quote, backslash, notLineFeed, notReturn, notTab, notBackspace, notFormFeed,
            control]
        rw [plain]
        simp [readQuoted?, readStringFrom, quote, backslash, control]

/-- Reading a written string gives the text and what follows the string. -/
theorem readQuoted?_quoteBody (text rest : Text) :
    readQuoted? (quoteBody text ++ '"' :: rest) = some (text, rest) := by
  induction text with
  | nil => simp [quoteBody, readQuoted?, readStringFrom]
  | cons character text inductionHypothesis =>
    have step := readQuoted?_escape character (quoteBody text ++ '"' :: rest)
    simp only [quoteBody, List.flatMap_cons, List.append_assoc] at step ⊢
    rw [step]
    simp only [quoteBody] at inductionHypothesis
    rw [inductionHypothesis]
    rfl

end Json

end RouteCatalog
