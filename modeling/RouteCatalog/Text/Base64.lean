import RouteCatalog.Text.Basic

/-!
# Bytes in letters

Bytes written in sixty-four characters, six bits each, with equals signs after the last ones.
Reading passes over all other characters, stops at the equals signs that complete a group of four,
and refuses a group that is not complete.
-/

namespace RouteCatalog

namespace Base64

/-- The six bits that a character stands for. -/
def sextet? (character : Char) : Option Nat :=
  let code := character.toNat
  if 65 ≤ code ∧ code ≤ 90 then some (code - 65)
  else if 97 ≤ code ∧ code ≤ 122 then some (code - 71)
  else if 48 ≤ code ∧ code ≤ 57 then some (code + 4)
  else if character = '+' then some 62
  else if character = '/' then some 63
  else none

/-- Six bits are a number below sixty-four. -/
theorem sextet?_lt {character : Char} {value : Nat} (read : sextet? character = some value) :
    value < 64 := by
  simp only [sextet?] at read
  grind

/-- Decode what follows `place` characters of a group, which leave the bits `carry` over. `pads`
counts the equals signs since the last of those characters. -/
def decodeFrom (place carry pads : Nat) : Text → Option (List UInt8)
  | [] => if place = 0 then some [] else none
  | character :: rest =>
    if character = '=' then
      if place < 2 then decodeFrom place carry pads rest
      else if 4 ≤ place + pads + 1 then some []
      else decodeFrom place carry (pads + 1) rest
    else
      match sextet? character with
      | none => decodeFrom place carry pads rest
      | some value =>
        match place with
        | 0 => decodeFrom 1 value 0 rest
        | 1 => (decodeFrom 2 (value % 16) 0 rest).map ((carry * 4 + value / 16).toUInt8 :: ·)
        | 2 => (decodeFrom 3 (value % 4) 0 rest).map ((carry * 16 + value / 4).toUInt8 :: ·)
        | _ => (decodeFrom 0 0 0 rest).map ((carry * 64 + value).toUInt8 :: ·)

/-- Decode bytes. -/
def decode? (text : Text) : Option (List UInt8) :=
  decodeFrom 0 0 0 text

end Base64

end RouteCatalog
