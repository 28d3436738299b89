import NodeAdmin.Json.Decode
import NodeAdmin.Json.Printer

/-!
# Numbers in documents

The grammar of numbers: a sign, a whole part without superfluous zeros, a fraction and an
exponent, of which only the whole part has to be there.  A number is read to its end
whatever follows it, as long as that cannot go on with the number.
-/

namespace NodeAdmin.Json

structure AreDigits (text : List Char) : Prop where
  filled : text ≠ []
  digits : ∀ character ∈ text, character.isDigit = true

inductive IsWhole : List Char → Prop where
  | zero : IsWhole ['0']
  | natural {first : Char} {rest : List Char} (nonzero : first ≠ '0')
      (digits : AreDigits (first :: rest)) : IsWhole (first :: rest)

inductive IsFraction : List Char → Prop where
  | absent : IsFraction []
  | point {digits : List Char} (areDigits : AreDigits digits) : IsFraction ('.' :: digits)

inductive IsExponent : List Char → Prop where
  | absent : IsExponent []
  | power {mark : Char} {sign digits : List Char} (marked : mark = 'e' ∨ mark = 'E')
      (signed : sign = [] ∨ sign = ['+'] ∨ sign = ['-']) (areDigits : AreDigits digits) :
      IsExponent (mark :: (sign ++ digits))

inductive IsUnsigned : List Char → Prop where
  | parts {whole fraction exponent : List Char} (isWhole : IsWhole whole)
      (isFraction : IsFraction fraction) (isExponent : IsExponent exponent) :
      IsUnsigned (whole ++ (fraction ++ exponent))

inductive IsNumber : List Char → Prop where
  | unsigned {text : List Char} (isUnsigned : IsUnsigned text) : IsNumber text
  | negative {text : List Char} (isUnsigned : IsUnsigned text) : IsNumber ('-' :: text)

/-- Whether a text behind a number is no part of it. -/
structure Ends (rest : List Char) : Prop where
  digit : ∀ character ∈ rest.head?, character.isDigit = false
  point : ∀ character ∈ rest.head?, character ≠ '.'
  mark : ∀ character ∈ rest.head?, character ≠ 'e' ∧ character ≠ 'E'

/-! ## Digits -/

namespace AreDigits

theorem head {text : List Char} (areDigits : AreDigits text) :
    ∃ first rest, text = first :: rest ∧ first.isDigit = true := by
  cases text with
  | nil => exact absurd rfl areDigits.filled
  | cons first rest => exact ⟨first, rest, rfl, areDigits.digits first List.mem_cons_self⟩

/-- Digits have no sign in front of them. -/
theorem takeSign_append {text : List Char} (areDigits : AreDigits text) (rest : List Char) :
    takeSign (text ++ rest) = (false, text ++ rest) := by
  obtain ⟨first, behind, rfl, digit⟩ := areDigits.head
  rw [List.cons_append, takeSign]
  · rintro others ⟨⟩
    cases digit
  · rintro others ⟨⟩
    cases digit

theorem takeDigits_append {text rest : List Char} (areDigits : AreDigits text)
    (ends : ∀ character ∈ rest.head?, character.isDigit = false) :
    takeDigits (text ++ rest) = (text, rest) := by
  have front : rest.takeWhile Char.isDigit = [] := by
    cases rest with
    | nil => rfl
    | cons character rest => simp [ends character rfl]
  have behind : rest.dropWhile Char.isDigit = rest := by
    cases rest with
    | nil => rfl
    | cons character rest => simp [ends character rfl]
  rw [takeDigits, List.takeWhile_append_of_pos areDigits.digits,
    List.dropWhile_append_of_pos areDigits.digits, front, behind, List.append_nil]

theorem requiredDigits_append {text rest : List Char} (areDigits : AreDigits text)
    (ends : ∀ character ∈ rest.head?, character.isDigit = false) :
    requiredDigits (text ++ rest) = .ok (text, rest) := by
  have taken := areDigits.takeDigits_append ends
  obtain ⟨first, others, rfl, digit⟩ := areDigits.head
  simp only [requiredDigits, List.cons_append, List.head?_cons, digit, if_true] at taken ⊢
  rw [taken]

end AreDigits

theorem IsWhole.areDigits {whole : List Char} (isWhole : IsWhole whole) : AreDigits whole := by
  cases isWhole with
  | zero => exact ⟨by simp, by simp⟩
  | natural _ digits => exact digits

/-! ## Reading numbers -/

theorem IsWhole.wholeDigits_append {whole rest : List Char} (isWhole : IsWhole whole)
    (ends : ∀ character ∈ rest.head?, character.isDigit = false) :
    wholeDigits (whole ++ rest) = .ok (whole, rest) := by
  rw [wholeDigits, isWhole.areDigits.requiredDigits_append ends]
  cases isWhole with
  | zero => rfl
  | natural nonzero digits =>
      simp only [bind, Except.bind]
      split
      · rename_i same
        cases same
        exact absurd rfl nonzero
      · rfl

/-- A fraction is read to the same digits before everything that cannot go on with it. -/
theorem IsFraction.fractionDigits_append {fraction : List Char}
    (isFraction : IsFraction fraction) :
    ∃ hasFraction digits, ∀ rest : List Char,
      (∀ character ∈ rest.head?, character.isDigit = false ∧ character ≠ '.') →
        fractionDigits (fraction ++ rest) = .ok (hasFraction, digits, rest) := by
  cases isFraction with
  | absent =>
      refine ⟨false, [], ?_⟩
      intro rest ends
      rw [List.nil_append, fractionDigits]
      rintro behind rfl
      exact (ends '.' rfl).2 rfl
  | @point digits areDigits =>
      refine ⟨true, digits, ?_⟩
      intro rest ends
      rw [List.cons_append, fractionDigits,
        areDigits.requiredDigits_append fun character first => (ends character first).1]
      rfl

theorem IsExponent.exponentDigits_append {exponent : List Char}
    (isExponent : IsExponent exponent) :
    ∃ hasExponent negative digits, ∀ rest, Ends rest →
      exponentDigits (exponent ++ rest) = .ok (hasExponent, negative, digits, rest) := by
  cases isExponent with
  | absent =>
      refine ⟨false, false, [], ?_⟩
      intro rest ends
      cases rest with
      | nil => rfl
      | cons character rest => simp [exponentDigits, ends.mark character rfl]
  | @power mark sign digits marked signed areDigits =>
      refine ⟨true, (takeSign (sign ++ digits)).1, digits, ?_⟩
      intro rest ends
      have read := areDigits.requiredDigits_append ends.digit
      simp only [exponentDigits, List.cons_append, List.append_assoc, marked, if_true]
      rcases signed with rfl | rfl | rfl
      · have alone := areDigits.takeSign_append []
        rw [List.append_nil] at alone
        simp only [List.nil_append, areDigits.takeSign_append, alone, read]
        rfl
      · simp only [List.cons_append, List.nil_append, takeSign, read]
        rfl
      · simp only [List.cons_append, List.nil_append, takeSign, read]
        rfl

/-- What may follow the fraction of a number does not go on with it. -/
theorem IsExponent.head_append {exponent rest : List Char} (isExponent : IsExponent exponent)
    (ends : Ends rest) :
    ∀ character ∈ (exponent ++ rest).head?, character.isDigit = false ∧ character ≠ '.' := by
  cases isExponent with
  | absent =>
      intro character first
      exact ⟨ends.digit character first, ends.point character first⟩
  | power marked => rcases marked with rfl | rfl <;> simp

theorem IsFraction.head_append {fraction rest : List Char} (isFraction : IsFraction fraction)
    (ends : ∀ character ∈ rest.head?, character.isDigit = false ∧ character ≠ '.') :
    ∀ character ∈ (fraction ++ rest).head?, character.isDigit = false := by
  cases isFraction with
  | absent =>
      intro character first
      exact (ends character first).1
  | point => simp

/-- The leaf of a number with these parts. -/
def NumeralParts.leaf (parts : NumeralParts) : Except Fault Numeral :=
  match parts.value? with
  | some value => .ok value
  | none => .error .malformed

theorem unsignedStep_eq {text afterWhole afterFraction rest whole fraction exponent : List Char}
    {hasFraction hasExponent exponentNegative : Bool}
    (readWhole : wholeDigits text = .ok (whole, afterWhole))
    (readFraction : fractionDigits afterWhole = .ok (hasFraction, fraction, afterFraction))
    (readExponent : exponentDigits afterFraction =
      .ok (hasExponent, exponentNegative, exponent, rest)) (negative : Bool) :
    unsignedStep negative text =
      .ok (.number (NumeralParts.leaf ⟨negative, whole, fraction, hasFraction,
        exponentNegative, exponent, hasExponent⟩), some rest) := by
  rw [unsignedStep, readWhole]
  simp only [bind, Except.bind, readFraction, readExponent, NumeralParts.leaf]
  generalize NumeralParts.value? _ = value
  cases value <;> rfl

theorem IsUnsigned.unsignedStep_append {text : List Char} (isUnsigned : IsUnsigned text)
    (negative : Bool) :
    ∃ value, ∀ rest, Ends rest →
      unsignedStep negative (text ++ rest) = .ok (.number value, some rest) := by
  obtain @⟨whole, fraction, exponent, isWhole, isFraction, isExponent⟩ := isUnsigned
  obtain ⟨hasFraction, fractionPart, readFraction⟩ := isFraction.fractionDigits_append
  obtain ⟨hasExponent, exponentNegative, exponentPart, readExponent⟩ :=
    isExponent.exponentDigits_append
  refine ⟨NumeralParts.leaf ⟨negative, whole, fractionPart, hasFraction, exponentNegative,
    exponentPart, hasExponent⟩, ?_⟩
  intro rest ends
  have fractionEnds := isExponent.head_append ends
  rw [List.append_assoc, List.append_assoc]
  exact unsignedStep_eq (isWhole.wholeDigits_append (isFraction.head_append fractionEnds))
    (readFraction _ fractionEnds) (readExponent _ ends) negative

theorem IsUnsigned.head {text : List Char} (isUnsigned : IsUnsigned text) :
    ∃ first rest, text = first :: rest ∧ first.isDigit = true := by
  obtain ⟨isWhole, isFraction, isExponent⟩ := isUnsigned
  obtain ⟨first, rest, rfl, digit⟩ := isWhole.areDigits.head
  exact ⟨first, _, rfl, digit⟩

theorem numberStep_of_digit {first : Char} {rest : List Char} {step : TreeStep}
    (digit : first.isDigit = true) (read : unsignedStep false (first :: rest) = .ok step) :
    numberStep (first :: rest) = step := by
  have noSign : first ≠ '-' := by
    rintro rfl
    cases digit
  simp [numberStep, noSign, read]

/-- A number is read to the same value before everything that cannot go on with it. -/
theorem IsNumber.numberStep_append {text : List Char} (isNumber : IsNumber text) :
    ∃ value, ∀ rest, Ends rest → numberStep (text ++ rest) = (.number value, some rest) := by
  cases isNumber with
  | unsigned isUnsigned =>
      obtain ⟨value, read⟩ := isUnsigned.unsignedStep_append false
      refine ⟨value, ?_⟩
      intro rest ends
      have step := read rest ends
      obtain ⟨first, others, rfl, digit⟩ := isUnsigned.head
      rw [List.cons_append] at step ⊢
      exact numberStep_of_digit digit step
  | negative isUnsigned =>
      obtain ⟨value, read⟩ := isUnsigned.unsignedStep_append true
      refine ⟨value, ?_⟩
      intro rest ends
      rw [List.cons_append, numberStep, read rest ends]

theorem ends_nil : Ends [] := ⟨by simp, by simp, by simp⟩

/-- What the text of a number is read to. -/
def numeralOf (text : List Char) : Except Fault Numeral :=
  match (numberStep text).1 with
  | .number value => value
  | tree => .error tree.mismatch

theorem IsNumber.numberStep_eq {text rest : List Char} (isNumber : IsNumber text)
    (ends : Ends rest) :
    numberStep (text ++ rest) = (.number (numeralOf text), some rest) := by
  obtain ⟨value, read⟩ := isNumber.numberStep_append
  have alone := read [] ends_nil
  rw [List.append_nil] at alone
  rw [read rest ends, numeralOf, alone]

theorem IsNumber.head {text : List Char} (isNumber : IsNumber text) :
    ∃ first rest, text = first :: rest ∧ (first = '-' ∨ first.isDigit = true) := by
  cases isNumber with
  | unsigned isUnsigned =>
      obtain ⟨first, rest, rfl, digit⟩ := isUnsigned.head
      exact ⟨first, rest, rfl, .inr digit⟩
  | negative => exact ⟨'-', _, rfl, .inl rfl⟩

/-! ## Written whole numbers -/

theorem areDigits_toDigits (number : Nat) : AreDigits (Nat.toDigits 10 number) := by
  constructor
  · exact Nat.toDigits_ne_nil
  · intro character member
    exact Nat.isDigit_of_mem_toDigits (by decide) (by decide) member

/-- A number other than zero is written without a zero at its front. -/
theorem toDigits_head {number : Nat} (positive : 0 < number) :
    ∃ first rest, Nat.toDigits 10 number = first :: rest ∧ first ≠ '0' := by
  induction number using Nat.strongRecOn with
  | ind number induction =>
      rw [Nat.toDigits_eq_if (by decide)]
      split
      · refine ⟨_, _, rfl, ?_⟩
        intro zero
        have none := Nat.digitChar_eq_zero.mp zero
        omega
      · obtain ⟨first, rest, digits, nonzero⟩ := induction (number / 10) (by omega) (by omega)
        exact ⟨first, _, by rw [digits, List.cons_append], nonzero⟩

theorem isWhole_toDigits (number : Nat) : IsWhole (Nat.toDigits 10 number) := by
  cases number with
  | zero => exact .zero
  | succ number =>
      have areDigits := areDigits_toDigits (number + 1)
      obtain ⟨first, rest, digits, nonzero⟩ := toDigits_head number.succ_pos
      rw [digits] at areDigits ⊢
      exact .natural nonzero areDigits

theorem isNumber_integerText (value : Int) : IsNumber (integerText value) := by
  have isUnsigned := IsUnsigned.parts (isWhole_toDigits value.natAbs) .absent .absent
  rw [List.append_nil, List.append_nil] at isUnsigned
  unfold integerText
  split
  · exact .negative isUnsigned
  · exact .unsigned isUnsigned

theorem digitsValue_toDigits (number : Nat) : digitsValue (Nat.toDigits 10 number) = number := by
  have value : Nat.ofDigitChars 10 (Nat.toDigits 10 number) 0 = number :=
    Nat.ofDigitChars_ten_toDigits
  rw [Nat.ofDigitChars_eq_foldl] at value
  simp only [Nat.mul_comm 10] at value
  exact value

theorem digitsValue_concat (digits : List Char) (digit : Char) :
    digitsValue (digits ++ [digit]) = digitsValue digits * 10 + (digit.toNat - 48) := by
  simp [digitsValue]

/-- Whether a whole number is kept as one when it is read: a word of 64 bits, with or
without a sign. -/
def IsWord (value : Int) : Prop := Word.isSigned64 value = true ∨ Word.isWord64 value = true

theorem isSigned64_iff {value : Int} :
    Word.isSigned64 value = true ↔
      -9223372036854775808 ≤ value ∧ value < 9223372036854775808 := by
  simp only [Word.isSigned64, Bool.and_eq_true, decide_eq_true_eq]
  exact Iff.rfl

theorem isWord64_iff {value : Int} :
    Word.isWord64 value = true ↔ 0 ≤ value ∧ value < 18446744073709551616 := by
  simp only [Word.isWord64, Bool.and_eq_true, decide_eq_true_eq]
  exact Iff.rfl

theorem isWord_iff {value : Int} :
    IsWord value ↔ -9223372036854775808 ≤ value ∧ value < 18446744073709551616 := by
  rw [IsWord, isSigned64_iff, isWord64_iff]
  omega

theorem value?_digits {negative : Bool} {number : Nat}
    (isWord : IsWord (if negative then -(number : Int) else number))
    (signed : negative = true → 0 < number) :
    NumeralParts.value? ⟨negative, Nat.toDigits 10 number, [], false, false, [], false⟩ =
      some (.whole (if negative then -(number : Int) else number)) := by
  have value := digitsValue_toDigits number
  rw [isWord_iff] at isWord
  cases negative with
  | false =>
      rw [if_neg Bool.false_ne_true] at isWord
      have word : Word.isWord64 number = true := by
        rw [isWord64_iff]
        omega
      simp [NumeralParts.value?, value, word]
  | true =>
      rw [if_pos rfl] at isWord
      have counted : 1 ≤ number := signed rfl
      have word : Word.isWord64 number = true := by
        rw [isWord64_iff]
        omega
      have fits : Word.isSigned64 (-(number : Int)) = true := by
        rw [isSigned64_iff]
        omega
      simp [NumeralParts.value?, value, word, fits, counted]

theorem unsignedStep_toDigits (negative : Bool) (number : Nat)
    (isWord : IsWord (if negative then -(number : Int) else number))
    (signed : negative = true → 0 < number) :
    unsignedStep negative (Nat.toDigits 10 number) =
      .ok (.number (.ok (.whole (if negative then -(number : Int) else number))),
        some []) := by
  have whole := (isWhole_toDigits number).wholeDigits_append ends_nil.digit
  rw [List.append_nil] at whole
  rw [unsignedStep_eq whole rfl rfl negative, NumeralParts.leaf,
    value?_digits isWord signed]

theorem numeralOf_integerText {value : Int} (isWord : IsWord value) :
    numeralOf (integerText value) = .ok (.whole value) := by
  unfold integerText
  split
  · rename_i negative
    have same : (if true then -(value.natAbs : Int) else value.natAbs) = value := by
      rw [if_pos rfl]
      omega
    have read := unsignedStep_toDigits true value.natAbs
      (by rwa [same]) (by omega)
    rw [numeralOf, numberStep, read, same]
  · rename_i nonnegative
    have same : (if false then -(value.natAbs : Int) else value.natAbs) = value := by
      rw [if_neg Bool.false_ne_true]
      omega
    have read := unsignedStep_toDigits false value.natAbs
      (by rwa [same]) (by simp)
    obtain ⟨first, rest, digits, digit⟩ := (areDigits_toDigits value.natAbs).head
    rw [same, digits] at read
    rw [numeralOf, digits, numberStep_of_digit digit read]

end NodeAdmin.Json
