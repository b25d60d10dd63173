import RouteCatalog.Text.Utf8

/-!
# Decoding what was encoded

Every text is decoded from its encoding: `Utf8.decode_encode`. The first byte of a character says how
many bytes follow it (`pendingOf?_two`, `pendingOf?_three`, `pendingOf?_four`), and each of them adds
six bits to the code point (`decodeFrom_continuation`).
-/

namespace RouteCatalog

namespace Utf8

section Leads

variable {lead : Nat}

/-- The first of two bytes. -/
theorem pendingOf?_two (least : 2 ≤ lead) (bound : lead < 32) :
    pendingOf? (UInt8.ofNat (lead + 192)) =
      some ⟨UInt8.ofNat (lead + 192), 1, 0, 0x80, 0xbf, lead⟩ := by
  have all : ∀ lead < 32, 2 ≤ lead → pendingOf? (UInt8.ofNat (lead + 192)) =
      some ⟨UInt8.ofNat (lead + 192), 1, 0, 0x80, 0xbf, lead⟩ := by decide +kernel
  exact all lead bound least

/-- The first of three bytes. The next one must neither make an overlong form nor a surrogate. -/
theorem pendingOf?_three (bound : lead < 16) :
    pendingOf? (UInt8.ofNat (lead + 224)) = some ⟨UInt8.ofNat (lead + 224), 1, 1,
      if lead = 0 then 0xa0 else 0x80, if lead = 13 then 0x9f else 0xbf, lead⟩ := by
  have all : ∀ lead < 16, pendingOf? (UInt8.ofNat (lead + 224)) =
      some ⟨UInt8.ofNat (lead + 224), 1, 1,
        if lead = 0 then 0xa0 else 0x80, if lead = 13 then 0x9f else 0xbf, lead⟩ := by
    decide +kernel
  exact all lead bound

/-- The first of four bytes. The next one must neither make an overlong form nor go beyond the last
code point. -/
theorem pendingOf?_four (bound : lead < 5) :
    pendingOf? (UInt8.ofNat (lead + 240)) = some ⟨UInt8.ofNat (lead + 240), 1, 2,
      if lead = 0 then 0x90 else 0x80, if lead = 4 then 0x8f else 0xbf, lead⟩ := by
  have all : ∀ lead < 5, pendingOf? (UInt8.ofNat (lead + 240)) =
      some ⟨UInt8.ofNat (lead + 240), 1, 2,
        if lead = 0 then 0x90 else 0x80, if lead = 4 then 0x8f else 0xbf, lead⟩ := by
    decide +kernel
  exact all lead bound

end Leads

section Bytes

variable {position : Nat} {rest : List UInt8}

/-- A first byte that is no character by itself makes a sequence pending. -/
theorem decodeFrom_lead {byte : UInt8} {pending : Pending} (great : 0x80 ≤ byte.toNat)
    (opens : pendingOf? byte = some pending) :
    decodeFrom position none (byte :: rest) = decodeFrom (position + 1) (some pending) rest := by
  rw [decodeFrom, if_neg (Nat.not_lt.mpr great), opens]

/-- A continuation byte in the range that is pending adds its bits. -/
theorem decodeFrom_continuation {pending : Pending} {bits : Nat} (small : bits < 64)
    (least : pending.least.toNat ≤ bits + 128) (greatest : bits + 128 ≤ pending.greatest.toNat) :
    decodeFrom position (some pending) (UInt8.ofNat (bits + 128) :: rest) =
      if pending.remaining = 0 then
        withDecoded (Char.ofNat (pending.code * 64 + bits)) (decodeFrom (position + 1) none rest)
      else
        decodeFrom (position + 1) (some ⟨pending.byte, pending.length + 1, pending.remaining - 1,
          0x80, 0xbf, pending.code * 64 + bits⟩) rest := by
  have value : (UInt8.ofNat (bits + 128)).toNat = bits + 128 := by
    rw [UInt8.toNat_ofNat']
    omega
  have inside : pending.least ≤ UInt8.ofNat (bits + 128) ∧
      UInt8.ofNat (bits + 128) ≤ pending.greatest := by
    rw [UInt8.le_iff_toNat_le, UInt8.le_iff_toNat_le, value]
    exact ⟨least, greatest⟩
  rw [decodeFrom, if_pos inside, value, Nat.add_sub_cancel]

/-- The last byte of a character. -/
theorem decodeFrom_last {first least greatest : UInt8} {length code bits : Nat} (small : bits < 64)
    (above : least.toNat ≤ bits + 128) (below : bits + 128 ≤ greatest.toNat) :
    decodeFrom position (some ⟨first, length, 0, least, greatest, code⟩)
        (UInt8.ofNat (bits + 128) :: rest) =
      withDecoded (Char.ofNat (code * 64 + bits)) (decodeFrom (position + 1) none rest) := by
  rw [decodeFrom_continuation small above below, if_pos rfl]

/-- A byte that others follow. -/
theorem decodeFrom_more {first least greatest : UInt8} {length remaining code bits : Nat}
    (small : bits < 64) (above : least.toNat ≤ bits + 128) (below : bits + 128 ≤ greatest.toNat) :
    decodeFrom position (some ⟨first, length, remaining + 1, least, greatest, code⟩)
        (UInt8.ofNat (bits + 128) :: rest) =
      decodeFrom (position + 1)
        (some ⟨first, length + 1, remaining, 0x80, 0xbf, code * 64 + bits⟩) rest := by
  rw [decodeFrom_continuation small above below, if_neg (Nat.succ_ne_zero remaining)]
  rfl

/-- Any bits are in the range of a continuation byte. -/
theorem continuation_range {bits : Nat} (small : bits < 64) :
    (0x80 : UInt8).toNat ≤ bits + 128 ∧ bits + 128 ≤ (0xbf : UInt8).toNat := by
  have least : (0x80 : UInt8).toNat = 128 := rfl
  have greatest : (0xbf : UInt8).toNat = 191 := rfl
  omega

theorem decodeFrom_two (code : Nat) (least : 0x80 ≤ code) (bound : code < 0x800) :
    decodeFrom position none
        (UInt8.ofNat (code / 64 % 32 + 192) :: UInt8.ofNat (code % 64 + 128) :: rest) =
      withDecoded (Char.ofNat code) (decodeFrom (position + 1 + 1) none rest) := by
  have first : (UInt8.ofNat (code / 64 % 32 + 192)).toNat = code / 64 % 32 + 192 := by
    rw [UInt8.toNat_ofNat']
    omega
  have whole : code / 64 % 32 * 64 + code % 64 = code := by omega
  have small : code % 64 < 64 := Nat.mod_lt _ (by decide)
  rw [decodeFrom_lead (by omega) (pendingOf?_two (by omega) (by omega)),
    decodeFrom_last small (continuation_range small).1 (continuation_range small).2, whole]

theorem decodeFrom_three (code : Nat) (least : 0x800 ≤ code) (bound : code < 0x10000)
    (noSurrogate : code < 0xd800 ∨ 0xdfff < code) :
    decodeFrom position none (UInt8.ofNat (code / 4096 % 16 + 224) ::
        UInt8.ofNat (code / 64 % 64 + 128) :: UInt8.ofNat (code % 64 + 128) :: rest) =
      withDecoded (Char.ofNat code) (decodeFrom (position + 1 + 1 + 1) none rest) := by
  have first : (UInt8.ofNat (code / 4096 % 16 + 224)).toNat = code / 4096 % 16 + 224 := by
    rw [UInt8.toNat_ofNat']
    omega
  have whole : (code / 4096 % 16 * 64 + code / 64 % 64) * 64 + code % 64 = code := by omega
  have small : code % 64 < 64 := Nat.mod_lt _ (by decide)
  have above : (if code / 4096 % 16 = 0 then 0xa0 else 0x80 : UInt8).toNat ≤
      code / 64 % 64 + 128 := by
    split <;> simp only [UInt8.reduceToNat] <;> omega
  have below : code / 64 % 64 + 128 ≤
      (if code / 4096 % 16 = 13 then 0x9f else 0xbf : UInt8).toNat := by
    split <;> simp only [UInt8.reduceToNat] <;> omega
  rw [decodeFrom_lead (by omega) (pendingOf?_three (by omega)),
    decodeFrom_more (Nat.mod_lt _ (by decide)) above below,
    decodeFrom_last small (continuation_range small).1 (continuation_range small).2, whole]

theorem decodeFrom_four (code : Nat) (least : 0x10000 ≤ code) (bound : code < 0x110000) :
    decodeFrom position none (UInt8.ofNat (code / 262144 % 8 + 240) ::
        UInt8.ofNat (code / 4096 % 64 + 128) :: UInt8.ofNat (code / 64 % 64 + 128) ::
        UInt8.ofNat (code % 64 + 128) :: rest) =
      withDecoded (Char.ofNat code) (decodeFrom (position + 1 + 1 + 1 + 1) none rest) := by
  have first : (UInt8.ofNat (code / 262144 % 8 + 240)).toNat = code / 262144 % 8 + 240 := by
    rw [UInt8.toNat_ofNat']
    omega
  have whole : ((code / 262144 % 8 * 64 + code / 4096 % 64) * 64 + code / 64 % 64) * 64 +
      code % 64 = code := by omega
  have middle : code / 64 % 64 < 64 := Nat.mod_lt _ (by decide)
  have small : code % 64 < 64 := Nat.mod_lt _ (by decide)
  have above : (if code / 262144 % 8 = 0 then 0x90 else 0x80 : UInt8).toNat ≤
      code / 4096 % 64 + 128 := by
    split <;> simp only [UInt8.reduceToNat] <;> omega
  have below : code / 4096 % 64 + 128 ≤
      (if code / 262144 % 8 = 4 then 0x8f else 0xbf : UInt8).toNat := by
    split <;> simp only [UInt8.reduceToNat] <;> omega
  rw [decodeFrom_lead (by omega) (pendingOf?_four (by omega)),
    decodeFrom_more (Nat.mod_lt _ (by decide)) above below,
    decodeFrom_more middle (continuation_range middle).1 (continuation_range middle).2,
    decodeFrom_last small (continuation_range small).1 (continuation_range small).2, whole]

/-- A character is decoded from its bytes. -/
theorem decodeFrom_utf8EncodeChar (position : Nat) (rest : List UInt8) (character : Char) :
    ∃ next, decodeFrom position none (String.utf8EncodeChar character ++ rest) =
      withDecoded character (decodeFrom next none rest) := by
  have valid : character.toNat < 0xd800 ∨ 0xdfff < character.toNat ∧ character.toNat < 0x110000 :=
    character.valid
  have same : Char.ofNat character.toNat = character := Char.ofNat_toNat character
  have code : character.val.toNat = character.toNat := rfl
  simp only [String.utf8EncodeChar, code]
  split
  · rename_i ascii
    have byte : (UInt8.ofNat character.toNat).toNat = character.toNat := by
      rw [UInt8.toNat_ofNat']
      omega
    refine ⟨position + 1, ?_⟩
    rw [List.singleton_append, decodeFrom, byte, if_pos (by omega), same]
  · split
    · refine ⟨position + 1 + 1, ?_⟩
      simp only [List.cons_append, List.nil_append]
      rw [decodeFrom_two character.toNat (by omega) (by omega), same]
    · split
      · refine ⟨position + 1 + 1 + 1, ?_⟩
        simp only [List.cons_append, List.nil_append]
        rw [decodeFrom_three character.toNat (by omega) (by omega) (by omega), same]
      · refine ⟨position + 1 + 1 + 1 + 1, ?_⟩
        simp only [List.cons_append, List.nil_append]
        rw [decodeFrom_four character.toNat (by omega) (by omega), same]

end Bytes

/-- Every text is decoded from its encoding. -/
theorem decode_encode (text : Text) : decode (encode text) = .ok text := by
  suffices fromAny : ∀ position, decodeFrom position none (encode text) = .ok text from fromAny 0
  induction text with
  | nil => exact fun _ => by rw [encode, List.flatMap_nil, decodeFrom]
  | cons character rest inductionHypothesis =>
    intro position
    obtain ⟨next, decoded⟩ := decodeFrom_utf8EncodeChar position (encode rest) character
    rw [encode, List.flatMap_cons, ← encode, decoded, inductionHypothesis next]
    rfl

end Utf8

end RouteCatalog
