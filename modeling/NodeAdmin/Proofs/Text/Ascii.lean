import NodeAdmin.Url.Percent

/-!
# ASCII and bytes

A text of ASCII characters is its own UTF-8, and without percent signs it is also
its own percent-decoding.
-/

namespace NodeAdmin.Text

theorem ofNat_ascii {character : Char} (ascii : character.toNat < 128) :
    Char.ofNat (UInt8.ofNat character.toNat).toNat = character := by
  have small : character.toNat % 256 = character.toNat := by omega
  simp [small]

theorem decodeLossy_cons_ascii {byte : UInt8} (ascii : byte < 0x80)
    (rest : List UInt8) :
    decodeLossy (byte :: rest) = Char.ofNat byte.toNat :: decodeLossy rest := by
  rw [decodeLossy, if_pos ascii]

theorem encodeCharacter_ascii {character : Char} (ascii : character.toNat < 128) :
    encodeCharacter character = [UInt8.ofNat character.toNat] := by
  simp [encodeCharacter, ascii]

end NodeAdmin.Text

namespace NodeAdmin.Url

theorem percentDecode_cons {character : Char} (plain : character ≠ '%')
    (rest : List Char) :
    percentDecode (character :: rest) =
      Text.encodeCharacter character ++ percentDecode rest := by
  cases rest with
  | nil => simp [percentDecode]
  | cons second rest =>
      cases rest with
      | nil => simp [percentDecode]
      | cons third rest => simp [percentDecode, plain]

/-- An ASCII text without percent signs is read as it stands. -/
theorem decodeLossy_percentDecode {text : List Char}
    (plain : ∀ character ∈ text, character.toNat < 128 ∧ character ≠ '%') :
    Text.decodeLossy (percentDecode text) = text := by
  induction text with
  | nil => simp [percentDecode, Text.decodeLossy]
  | cons character rest induction =>
      obtain ⟨ascii, noPercent⟩ := plain character List.mem_cons_self
      have below : UInt8.ofNat character.toNat < 0x80 := by
        have small : character.toNat % 256 = character.toNat := by omega
        simpa [UInt8.lt_iff_toNat_lt, small] using ascii
      have restPlain := induction fun other member =>
        plain other (List.mem_cons_of_mem _ member)
      rw [percentDecode_cons noPercent, Text.encodeCharacter_ascii ascii,
        List.singleton_append, Text.decodeLossy_cons_ascii below,
        Text.ofNat_ascii ascii, restPlain]

end NodeAdmin.Url
