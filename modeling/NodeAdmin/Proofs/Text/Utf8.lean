import Mathlib.Tactic.IntervalCases
import NodeAdmin.Proofs.Text.Ascii

/-!
# Bytes of characters

The bytes that stand for a character are read back to that character, whatever bytes follow them.
Texts with the same bytes are therefore the same.
-/

namespace NodeAdmin.Text

/-- The bytes of a text. -/
def utf8 (text : List Char) : List UInt8 := text.flatMap encodeCharacter

@[simp]
theorem utf8_nil : utf8 [] = [] := rfl

@[simp]
theorem utf8_cons (character : Char) (text : List Char) :
    utf8 (character :: text) = encodeCharacter character ++ utf8 text := rfl

@[simp]
theorem utf8_append (front behind : List Char) :
    utf8 (front ++ behind) = utf8 front ++ utf8 behind :=
  List.flatMap_append

/-! ## Lead bytes -/

/-- A byte that leads others: how many, the bounds of the first of them, and its own bits. -/
structure Leads (lead : UInt8) (count : Nat) (lowest highest : UInt8) (bits : Nat) : Prop where
  high : ¬ lead < 0x80
  followers : followers? lead = some (count, lowest, highest)
  payload : leadPayload count lead = bits

theorem leads_one {bits : Nat} (low : 2 ≤ bits) (high : bits < 32) :
    Leads (UInt8.ofNat (0xC0 + bits)) 1 0x80 0xBF bits := by
  interval_cases bits <;> exact ⟨by decide, rfl, rfl⟩

/-- Three bytes are not spent on what two can hold, and not on surrogates. -/
theorem leads_two {bits : Nat} (high : bits < 16) :
    Leads (UInt8.ofNat (0xE0 + bits)) 2 (if bits = 0 then 0xA0 else 0x80)
      (if bits = 13 then 0x9F else 0xBF) bits := by
  interval_cases bits <;> exact ⟨by decide, rfl, rfl⟩

/-- Four bytes are not spent on what three can hold, and not beyond the last character. -/
theorem leads_three {bits : Nat} (high : bits < 5) :
    Leads (UInt8.ofNat (0xF0 + bits)) 3 (if bits = 0 then 0x90 else 0x80)
      (if bits = 4 then 0x8F else 0xBF) bits := by
  interval_cases bits <;> exact ⟨by decide, rfl, rfl⟩

/-! ## Reading characters back -/

theorem takeFollowers_byte {lowest highest : UInt8} {bits : Nat} (small : bits < 64)
    (low : lowest.toNat ≤ 0x80 + bits) (high : 0x80 + bits ≤ highest.toNat) (count code : Nat)
    (rest : List UInt8) :
    takeFollowers (count + 1) lowest highest code (UInt8.ofNat (0x80 + bits) :: rest) =
      takeFollowers count 0x80 0xBF (code * 64 + bits) rest := by
  have value : (UInt8.ofNat (0x80 + bits)).toNat = 0x80 + bits := by
    rw [UInt8.toNat_ofNat']
    omega
  have within : (lowest ≤ UInt8.ofNat (0x80 + bits) && UInt8.ofNat (0x80 + bits) ≤ highest) =
      true := by
    simp only [UInt8.le_iff_toNat_le, value, low, high, decide_true, Bool.and_self]
  have lower : (0x80 + bits) % 64 = bits := by omega
  rw [takeFollowers, if_pos within, value, lower]

theorem Leads.decodeLossy_cons {lead lowest highest : UInt8} {count bits code : Nat}
    {followers rest : List UInt8} (leads : Leads lead count lowest highest bits)
    (taken : takeFollowers count lowest highest bits followers = (some code, rest)) :
    decodeLossy (lead :: followers) = Char.ofNat code :: decodeLossy rest := by
  rw [decodeLossy, if_neg leads.high, leads.followers]
  dsimp only
  rw [leads.payload, taken]

/-- A character is read back from its bytes. -/
theorem decodeLossy_encodeCharacter (character : Char) (rest : List UInt8) :
    decodeLossy (encodeCharacter character ++ rest) = character :: decodeLossy rest := by
  have valid : character.toNat < 0xD800 ∨ 0xDFFF < character.toNat ∧ character.toNat < 0x110000 :=
    character.valid
  have whole := Char.ofNat_toNat character
  have bounds : (0x80 : UInt8).toNat = 0x80 ∧ (0xBF : UInt8).toNat = 0xBF := ⟨rfl, rfl⟩
  unfold encodeCharacter
  generalize character.toNat = code at valid whole
  subst whole
  -- One case for each length, with the bits of the character in order.
  dsimp only
  split_ifs with one two three <;> simp only [List.cons_append, List.nil_append]
  · have value : (UInt8.ofNat code).toNat = code := by
      rw [UInt8.toNat_ofNat']
      omega
    rw [decodeLossy_cons_ascii, value]
    simpa [UInt8.lt_iff_toNat_lt, value] using one
  · have back : code / 64 * 64 + code % 64 = code := by omega
    apply (leads_one (by omega) (by omega)).decodeLossy_cons
    rw [takeFollowers_byte (by omega) (by omega) (by omega), back]
    rfl
  · have back : (code / 4096 * 64 + code / 64 % 64) * 64 + code % 64 = code := by omega
    apply (leads_two (by omega)).decodeLossy_cons
    rw [takeFollowers_byte (by omega), takeFollowers_byte (by omega) (by omega) (by omega), back]
    · rfl
    · split_ifs <;> simp only [UInt8.toNat_ofNat] <;> omega
    · split_ifs <;> simp only [UInt8.toNat_ofNat] <;> omega
  · have back : ((code / 262144 * 64 + code / 4096 % 64) * 64 + code / 64 % 64) * 64 +
        code % 64 = code := by omega
    apply (leads_three (by omega)).decodeLossy_cons
    rw [takeFollowers_byte (by omega), takeFollowers_byte (by omega) (by omega) (by omega),
      takeFollowers_byte (by omega) (by omega) (by omega), back]
    · rfl
    · split_ifs <;> simp only [UInt8.toNat_ofNat] <;> omega
    · split_ifs <;> simp only [UInt8.toNat_ofNat] <;> omega

/-- A text is read back from its bytes. -/
theorem decodeLossy_utf8 (text : List Char) : decodeLossy (utf8 text) = text := by
  induction text with
  | nil => simp [decodeLossy]
  | cons character text induction =>
      rw [utf8_cons, decodeLossy_encodeCharacter, induction]

/-- Texts with the same bytes are the same. -/
theorem utf8_inj {text other : List Char} : utf8 text = utf8 other ↔ text = other :=
  (Function.LeftInverse.injective decodeLossy_utf8).eq_iff

end NodeAdmin.Text
