import Mathlib.Tactic.IntervalCases
import NodeAdmin.Text.Hex

/-!
# Hexadecimal numbers read back
-/

namespace NodeAdmin.Text

theorem hexValue?_upperHexDigit {value : Nat} (digit : value < 16) :
    hexValue? (upperHexDigit value) = some value := by
  interval_cases value <;> rfl

/-- As much of a number is read back as the digits have room for. -/
theorem hexNumber?_upperHex (width value : Nat) :
    hexNumber? (upperHex width value) = some (value % 16 ^ width) := by
  induction width generalizing value with
  | zero => simp [hexNumber?, upperHex, Nat.mod_one]
  | succ width induction =>
      have digit := hexValue?_upperHexDigit (Nat.mod_lt value (by decide : 0 < 16))
      have front := induction (value / 16)
      unfold hexNumber? at front ⊢
      have together : value / 16 % 16 ^ width * 16 + value % 16 = value % 16 ^ (width + 1) := by
        rw [Nat.pow_succ', Nat.mod_mul]
        omega
      simp [upperHex, List.foldlM_append, front, digit, together]

end NodeAdmin.Text
