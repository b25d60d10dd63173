import RouteCatalog.Text.Quoted

/-!
# UTF-8

The encoding of texts as bytes. Decoding stops at the first sequence that is not well formed and
says where it is and what is wrong with it. A second byte that would make an overlong form, a
surrogate or a code point beyond the last one counts as an invalid continuation of the first byte
alone. A byte order mark is a character like any other.
-/

namespace RouteCatalog

namespace Utf8

/-- What is wrong with a sequence of bytes. -/
inductive Reason where
  | invalidStart
  | invalidContinuation
  | unexpectedEnd
  deriving DecidableEq, Repr

/-- A sequence that is not well formed: its first byte, its position and its length. -/
structure Malformed where
  byte : UInt8
  position : Nat
  length : Nat
  reason : Reason
  deriving DecidableEq, Repr

/-- A sequence of which more bytes are to come. -/
structure Pending where
  byte : UInt8
  /-- How many bytes have been read. -/
  length : Nat
  /-- How many bytes come after the next one. -/
  remaining : Nat
  /-- The least and the greatest next byte. -/
  least : UInt8
  greatest : UInt8
  /-- The bits of the code point so far. -/
  code : Nat
  deriving DecidableEq, Repr

/-- What a byte begins that is not a character by itself. -/
def pendingOf? (byte : UInt8) : Option Pending :=
  let bits := byte.toNat
  if bits < 0xc2 then none
  else if bits < 0xe0 then some ⟨byte, 1, 0, 0x80, 0xbf, bits - 0xc0⟩
  else if bits = 0xe0 then some ⟨byte, 1, 1, 0xa0, 0xbf, 0⟩
  else if bits = 0xed then some ⟨byte, 1, 1, 0x80, 0x9f, 0xd⟩
  else if bits < 0xf0 then some ⟨byte, 1, 1, 0x80, 0xbf, bits - 0xe0⟩
  else if bits = 0xf0 then some ⟨byte, 1, 2, 0x90, 0xbf, 0⟩
  else if bits < 0xf4 then some ⟨byte, 1, 2, 0x80, 0xbf, bits - 0xf0⟩
  else if bits = 0xf4 then some ⟨byte, 1, 2, 0x80, 0x8f, 4⟩
  else none

/-- Put a character before decoded text. -/
def withDecoded (character : Char) (decoded : Except Malformed Text) : Except Malformed Text :=
  match decoded with
  | .ok text => .ok (character :: text)
  | .error malformed => .error malformed

/-- Decode bytes from a position that may be inside a sequence. -/
def decodeFrom (position : Nat) : Option Pending → List UInt8 → Except Malformed Text
  | none, [] => .ok []
  | some pending, [] =>
    .error ⟨pending.byte, position - pending.length, pending.length, .unexpectedEnd⟩
  | none, byte :: rest =>
    if byte.toNat < 0x80 then
      withDecoded (Char.ofNat byte.toNat) (decodeFrom (position + 1) none rest)
    else
      match pendingOf? byte with
      | some pending => decodeFrom (position + 1) (some pending) rest
      | none => .error ⟨byte, position, 1, .invalidStart⟩
  | some pending, byte :: rest =>
    if pending.least ≤ byte ∧ byte ≤ pending.greatest then
      let code := pending.code * 64 + (byte.toNat - 0x80)
      if pending.remaining = 0 then
        withDecoded (Char.ofNat code) (decodeFrom (position + 1) none rest)
      else
        decodeFrom (position + 1)
          (some ⟨pending.byte, pending.length + 1, pending.remaining - 1, 0x80, 0xbf, code⟩) rest
    else .error ⟨pending.byte, position - pending.length, pending.length, .invalidContinuation⟩

/-- Decode bytes. -/
def decode (bytes : List UInt8) : Except Malformed Text :=
  decodeFrom 0 none bytes

/-- Encode a text. -/
def encode (text : Text) : List UInt8 :=
  text.flatMap String.utf8EncodeChar

/-- The reason in words. -/
def Reason.message : Reason → Text
  | invalidStart => "invalid start byte".toList
  | invalidContinuation => "invalid continuation byte".toList
  | unexpectedEnd => "unexpected end of data".toList

/-- The fault in words. -/
def Malformed.message (malformed : Malformed) : Text :=
  let place : Text :=
    if malformed.length ≤ 1 then
      "byte 0x".toList ++ Text.hexadecimal 2 malformed.byte.toNat ++ " in position ".toList ++
        Nat.toDigits 10 malformed.position
    else
      "bytes in position ".toList ++ Nat.toDigits 10 malformed.position ++
        '-' :: Nat.toDigits 10 (malformed.position + malformed.length - 1)
  "'utf-8' codec can't decode ".toList ++ place ++ ": ".toList ++ malformed.reason.message

end Utf8

end RouteCatalog
