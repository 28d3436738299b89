/-!
# UTF-8

Bytes that a node answers with need not be UTF-8. Reading them replaces every
maximal ill-formed piece by one replacement character.
-/

namespace NodeAdmin.Text

/-- How many bytes may follow a lead byte, and the bounds of the first one of
them. Bytes that lead nothing have no entry. -/
def followers? (lead : UInt8) : Option (Nat × UInt8 × UInt8) :=
  if 0xC2 ≤ lead && lead ≤ 0xDF then some (1, 0x80, 0xBF)
  else if lead == 0xE0 then some (2, 0xA0, 0xBF)
  else if lead == 0xED then some (2, 0x80, 0x9F)
  else if 0xE1 ≤ lead && lead ≤ 0xEF then some (2, 0x80, 0xBF)
  else if lead == 0xF0 then some (3, 0x90, 0xBF)
  else if lead == 0xF4 then some (3, 0x80, 0x8F)
  else if 0xF1 ≤ lead && lead ≤ 0xF3 then some (3, 0x80, 0xBF)
  else none

/-- The payload of a lead byte that `count` bytes follow. -/
def leadPayload (count : Nat) (lead : UInt8) : Nat :=
  lead.toNat % Nat.pow 2 (6 - count)

/-- Reads `count` further bytes of a character whose bits so far are known; the
first of them has its own bounds. An ill-formed or missing byte is not
consumed. -/
def takeFollowers : Nat → UInt8 → UInt8 → Nat → List UInt8 →
    Option Nat × List UInt8
  | 0, _, _, code, rest => (some code, rest)
  | _ + 1, _, _, _, [] => (none, [])
  | count + 1, lowest, highest, code, byte :: rest =>
      if lowest ≤ byte && byte ≤ highest then
        takeFollowers count 0x80 0xBF (code * 64 + byte.toNat % 64) rest
      else (none, byte :: rest)

theorem takeFollowers_length (count : Nat) (lowest highest : UInt8)
    (code : Nat) (bytes : List UInt8) :
    (takeFollowers count lowest highest code bytes).2.length ≤
      bytes.length := by
  induction count generalizing lowest highest code bytes with
  | zero => simp [takeFollowers]
  | succ count inner =>
      cases bytes with
      | nil => simp [takeFollowers]
      | cons byte rest =>
          unfold takeFollowers
          split
          · exact Nat.le_succ_of_le (inner _ _ _ _)
          · exact Nat.le_refl _

/-- The text of bytes, with U+FFFD in place of each ill-formed piece. -/
def decodeLossy : List UInt8 → List Char
  | [] => []
  | lead :: rest =>
      if lead < 0x80 then Char.ofNat lead.toNat :: decodeLossy rest
      else match followers? lead with
        | none => '\uFFFD' :: decodeLossy rest
        | some (count, lowest, highest) =>
            let step :=
              takeFollowers count lowest highest (leadPayload count lead) rest
            let character := match step.1 with
              | some code => Char.ofNat code
              | none => '\uFFFD'
            character :: decodeLossy step.2
  termination_by bytes => bytes.length
  decreasing_by
    · simp
    · simp
    · have shorter := takeFollowers_length count lowest highest
        (leadPayload count lead) rest
      simp only [List.length_cons]
      omega

/-- The bytes of a character. -/
def encodeCharacter (character : Char) : List UInt8 :=
  let code := character.toNat
  if code < 0x80 then [UInt8.ofNat code]
  else if code < 0x800 then
    [UInt8.ofNat (0xC0 + code / 64), UInt8.ofNat (0x80 + code % 64)]
  else if code < 0x10000 then
    [UInt8.ofNat (0xE0 + code / 4096), UInt8.ofNat (0x80 + code / 64 % 64),
      UInt8.ofNat (0x80 + code % 64)]
  else
    [UInt8.ofNat (0xF0 + code / 262144), UInt8.ofNat (0x80 + code / 4096 % 64),
      UInt8.ofNat (0x80 + code / 64 % 64), UInt8.ofNat (0x80 + code % 64)]

end NodeAdmin.Text
