import NodeAdmin.Proofs.Double.Rounding
import NodeAdmin.Proofs.Json.NumberText

/-!
# Written doubles

The text of a finite double follows the grammar of numbers.  The shortest decimal of a
double other than zero is not zero, so that no text has a superfluous zero at its front.
-/

namespace NodeAdmin

namespace Magnitude

theorem rounds_zero {ordinal denominator : Nat} (positive : 0 < ordinal)
    (divides : 0 < denominator) : rounds ordinal 0 denominator = false := by
  have above : 0 < lowerEnd ordinal * denominator := by
    have units := unitsOf_pos positive
    exact Nat.mul_pos (Nat.lt_of_lt_of_le units (Nat.le_add_left _ _)) divides
  unfold rounds
  dsimp only
  split
  · rw [decide_eq_false (Nat.not_le.mpr above), Bool.false_and]
  · rw [decide_eq_false (Nat.not_lt_zero _), Bool.false_and]

theorem halfUnits_pos (significand : Nat) (exponent : Int) :
    0 < (halfUnits significand exponent).2 := by
  unfold halfUnits
  split
  · exact Nat.one_pos
  · exact Nat.pow_pos (by decide)

theorem rounds_halfUnits_zero {ordinal : Nat} (positive : 0 < ordinal) (exponent : Int) :
    rounds ordinal (halfUnits 0 exponent).1 (halfUnits 0 exponent).2 = false := by
  have none : (halfUnits 0 exponent).1 = 0 := by
    unfold halfUnits
    split <;> simp
  rw [none, rounds_zero positive (halfUnits_pos 0 exponent)]

theorem onGrid_ne_zero {tie : TieBreak} {ordinal : Nat} {exponent : Int} {decimal : Decimal}
    (positive : 0 < ordinal) (found : onGrid tie ordinal exponent = some decimal) :
    decimal.significand ≠ 0 := by
  have zero := rounds_halfUnits_zero positive exponent
  unfold onGrid at found
  dsimp only at found
  generalize (if 0 ≤ exponent then
    unitsOf ordinal / (Double.unitsPerOne * Nat.pow 10 exponent.toNat)
    else unitsOf ordinal * Nat.pow 10 (-exponent).toNat / Double.unitsPerOne) = below at found
  have nonzero (belowRounds : rounds ordinal (halfUnits below exponent).1
      (halfUnits below exponent).2 = true) : below ≠ 0 := by
    rintro rfl
    rw [zero] at belowRounds
    cases belowRounds
  -- The candidate above is a successor, and the one below is taken only where it rounds back.
  split at found
  · rename_i both
    have different := nonzero (Bool.and_eq_true _ _ ▸ both).1
    split at found
    · cases found
      exact different
    · split at found
      · cases found
        exact Nat.succ_ne_zero below
      · cases tie with
        | toEven =>
            cases found
            show below + below % 2 ≠ 0
            omega
        | upward =>
            cases found
            exact Nat.succ_ne_zero below
  · split at found
    · rename_i belowRounds
      cases found
      exact nonzero belowRounds
    · split at found
      · cases found
        exact Nat.succ_ne_zero below
      · cases found

theorem firstOnGrid_ne_zero (tie : TieBreak) {ordinal : Nat} (positive : 0 < ordinal)
    (tries : Nat) (exponent : Int) :
    (firstOnGrid tie ordinal tries exponent).significand ≠ 0 := by
  induction tries generalizing exponent with
  | zero => exact Nat.ne_of_gt (unitsOf_pos positive)
  | succ tries induction =>
      rw [firstOnGrid]
      split
      · rename_i found
        exact onGrid_ne_zero positive found
      · exact induction (exponent - 1)

end Magnitude

theorem Decimal.trimZeros_ne_zero {decimal : Decimal} (nonzero : decimal.significand ≠ 0)
    (steps : Nat) : (decimal.trimZeros steps).significand ≠ 0 := by
  induction steps generalizing decimal with
  | zero => exact nonzero
  | succ steps induction =>
      rw [trimZeros]
      split
      · apply induction
        dsimp only
        omega
      · exact nonzero

/-- Only the decimal of zero has no significand, and its last digit is that of the ones. -/
theorem Magnitude.shortest_significand (tie : TieBreak) (magnitude : Magnitude) :
    (magnitude.shortest tie).significand ≠ 0 ∨ magnitude.shortest tie = ⟨0, 0⟩ := by
  unfold shortest
  split
  · exact .inr rfl
  · rename_i nonzero
    exact .inl (Decimal.trimZeros_ne_zero
      (firstOnGrid_ne_zero tie (Nat.pos_of_ne_zero nonzero) 18 _) 20)

namespace Json

/-! ## Texts of doubles -/

theorem zeros_areDigits (count : Nat) :
    ∀ character ∈ List.replicate count '0', character.isDigit = true := by
  intro character member
  rw [List.eq_of_mem_replicate member]
  rfl

/-- The digits of a number other than zero, and zeros behind them. -/
theorem isWhole_zeros {number : Nat} (positive : 0 < number) (count : Nat) :
    IsWhole (Nat.toDigits 10 number ++ List.replicate count '0') := by
  have areDigits : AreDigits (Nat.toDigits 10 number ++ List.replicate count '0') := by
    constructor
    · simp
    · intro character member
      rcases List.mem_append.mp member with digit | zero
      · exact (areDigits_toDigits number).digits character digit
      · exact zeros_areDigits count character zero
  obtain ⟨first, others, digits, nonzero⟩ := toDigits_head positive
  rw [digits, List.cons_append] at areDigits ⊢
  exact .natural nonzero areDigits

/-- Some of the digits in front of a number with more digits. -/
theorem IsWhole.take {whole : List Char} (isWhole : IsWhole whole) (count : Nat)
    (positive : 0 < count) (fewer : count < whole.length) : IsWhole (whole.take count) := by
  obtain ⟨count, rfl⟩ := Nat.exists_eq_succ_of_ne_zero (Nat.ne_of_gt positive)
  cases isWhole with
  | zero => simp at fewer
  | natural nonzero digits =>
      rw [List.take_succ_cons]
      apply IsWhole.natural nonzero
      constructor
      · simp
      · intro character member
        rw [← List.take_succ_cons] at member
        exact digits.digits character (List.mem_of_mem_take member)

theorem AreDigits.drop {digits : List Char} (areDigits : AreDigits digits) (count : Nat)
    (fewer : count < digits.length) : AreDigits (digits.drop count) := by
  constructor
  · intro nothing
    rw [List.drop_eq_nil_iff] at nothing
    omega
  · intro character member
    exact areDigits.digits character (List.mem_of_mem_drop member)

theorem isUnsigned_positional_whole {decimal : Decimal}
    (canonical : decimal.significand ≠ 0 ∨ decimal = ⟨0, 0⟩) (whole : 0 ≤ decimal.exponent) :
    IsUnsigned (Double.positional decimal ++ ['.', '0']) := by
  have fraction : IsFraction ['.', '0'] := .point ⟨by simp, by simp⟩
  have parts {text : List Char} (isWhole : IsWhole text) : IsUnsigned (text ++ ['.', '0']) := by
    have isUnsigned := IsUnsigned.parts isWhole fraction .absent
    rwa [List.append_nil] at isUnsigned
  rw [Double.positional, if_pos whole]
  apply parts
  rcases canonical with nonzero | rfl
  · exact isWhole_zeros (Nat.pos_of_ne_zero nonzero) _
  · exact .zero

theorem isUnsigned_positional_fraction {decimal : Decimal} (below : ¬ 0 ≤ decimal.exponent) :
    IsUnsigned (Double.positional decimal) := by
  have areDigits := areDigits_toDigits decimal.significand
  have parts {whole digits : List Char} (isWhole : IsWhole whole) (isDigits : AreDigits digits) :
      IsUnsigned (whole ++ '.' :: digits) := by
    have isUnsigned := IsUnsigned.parts isWhole (.point isDigits) .absent
    rwa [List.append_nil] at isUnsigned
  have places : 0 < (-decimal.exponent).toNat := by omega
  rw [Double.positional, if_neg below]
  dsimp only
  split
  · rename_i inside
    apply parts
    · apply (isWhole_toDigits decimal.significand).take
      · exact Nat.sub_pos_of_lt inside
      · exact Nat.sub_lt (Nat.lt_of_le_of_lt (Nat.zero_le _) inside) places
    · apply areDigits.drop
      exact Nat.sub_lt (Nat.lt_of_le_of_lt (Nat.zero_le _) inside) places
  · have alone : IsWhole ['0'] := .zero
    apply parts alone
    constructor
    · simp [areDigits.filled, Decimal.digits]
    · intro character member
      rcases List.mem_append.mp member with zero | digit
      · exact zeros_areDigits _ character zero
      · exact areDigits.digits character digit

theorem isUnsigned_scientific (decimal : Decimal) : IsUnsigned (Double.scientific decimal) := by
  have isWhole := isWhole_toDigits decimal.significand
  have exponent : IsExponent ('e' :: ((if decimal.scale < 0 then '-' else '+') ::
      Nat.toDigits 10 decimal.scale.natAbs)) := by
    have areDigits := areDigits_toDigits decimal.scale.natAbs
    split
    · exact .power (.inl rfl) (.inr (.inr rfl)) areDigits
    · exact .power (.inl rfl) (.inr (.inl rfl)) areDigits
  unfold Double.scientific
  dsimp only
  unfold Decimal.digits
  split
  · rename_i first second rest digits
    rw [digits] at isWhole
    have front : IsWhole [first] := isWhole.take 1 (by simp) (by simp)
    have behind : AreDigits (second :: rest) :=
      isWhole.areDigits.drop 1 (by simp)
    exact .parts front (.point behind) exponent
  · exact .parts isWhole .absent exponent

theorem isNumber_jsonText {value : Double} {text : String} (written : value.jsonText? = some text) :
    IsNumber text.toList := by
  cases value with
  | nan => cases written
  | number negative magnitude =>
      unfold Double.jsonText? at written
      dsimp only at written
      split at written
      · cases written
      · have canonical := magnitude.shortest_significand .toEven
        generalize magnitude.shortest .toEven = decimal at canonical written
        have isUnsigned : IsUnsigned
            (if -5 ≤ decimal.scale ∧ decimal.scale < 16 then
              if 0 ≤ decimal.exponent then Double.positional decimal ++ ['.', '0']
              else Double.positional decimal
            else Double.scientific decimal) := by
          split
          · split
            · rename_i whole
              exact isUnsigned_positional_whole canonical whole
            · rename_i below
              exact isUnsigned_positional_fraction below
          · exact isUnsigned_scientific decimal
        cases written
        rw [String.toList_append, String.toList_ofList]
        cases negative with
        | false => exact .unsigned isUnsigned
        | true => exact .negative isUnsigned

end Json

end NodeAdmin
