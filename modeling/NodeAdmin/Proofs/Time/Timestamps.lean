import Mathlib.Algebra.Group.Nat.Defs
import Mathlib.Data.List.Induction
import NodeAdmin.Proofs.Json.NumberText
import NodeAdmin.Proofs.Text.Ends
import NodeAdmin.Proofs.Time.Calendar
import NodeAdmin.Time.Reading
import NodeAdmin.Time.Writing

/-!
# Written timestamps

Every instant that was read is written as a text that is read to the same instant, as long as
its year has four digits.  Only the last second of a minute can be a leap second.
-/

namespace NodeAdmin.Time

/-! ## Numbers of a fixed width -/

section Digits

variable {digits rest : List Char}

theorem digitsValue_lt (areDigits : ∀ character ∈ digits, character.isDigit = true) :
    digitsValue digits < 10 ^ digits.length := by
  induction digits using List.reverseRecOn with
  | nil => exact Nat.one_pos
  | append_singleton digits digit induction =>
      have front := induction fun character member =>
        areDigits character (List.mem_append_left _ member)
      have last : digit.toNat ≤ 57 :=
        (Char.isDigit_iff_toNat.mp (areDigits digit (by simp))).2
      rw [Json.digitsValue_concat, List.length_append, List.length_singleton, Nat.pow_succ]
      omega

/-- Where as many digits stand as are wanted at most, just they are taken. -/
theorem readNumber_digits (areDigits : ∀ character ∈ digits, character.isDigit = true)
    {least : Nat} (enough : least ≤ digits.length) :
    readNumber least digits.length (digits ++ rest) = some (digitsValue digits, rest) := by
  have taken : ((digits ++ rest).takeWhile Char.isDigit).take digits.length = digits := by
    rw [List.takeWhile_append_of_pos areDigits, List.take_left]
  simp [readNumber, taken, enough]

theorem readNumber_lt {least most number : Nat} {text : List Char}
    (read : readNumber least most text = some (number, rest)) : number < 10 ^ most := by
  unfold readNumber at read
  dsimp only at read
  split at read
  · cases read
  · cases read
    have areDigits : ∀ character ∈ (text.takeWhile Char.isDigit).take most,
        character.isDigit = true := by
      intro character member
      exact List.mem_takeWhile_imp (List.mem_of_mem_take member)
    calc
      digitsValue ((text.takeWhile Char.isDigit).take most)
        < 10 ^ ((text.takeWhile Char.isDigit).take most).length := digitsValue_lt areDigits
      _ ≤ 10 ^ most := Nat.pow_le_pow_right (by decide) (List.length_take_le _ _)

end Digits

section Padded

variable {width value : Nat}

theorem padded_areDigits :
    ∀ character ∈ padded width value, character.isDigit = true := by
  intro character member
  rcases List.mem_append.mp member with zero | digit
  · rw [List.eq_of_mem_replicate zero]
    rfl
  · exact (Json.areDigits_toDigits value).digits character digit

theorem padded_length (positive : 0 < width) (fits : value < 10 ^ width) :
    (padded width value).length = width := by
  have short := (Nat.length_toDigits_le_iff (by decide) positive).mpr fits
  simp only [padded, List.length_append, List.length_replicate]
  omega

theorem padded_head (positive : 0 < width) (fits : value < 10 ^ width) :
    ∃ first rest, padded width value = first :: rest ∧ first.isDigit = true := by
  have length := padded_length positive fits
  have areDigits : ∀ character ∈ padded width value, character.isDigit = true :=
    padded_areDigits
  cases digits : padded width value with
  | nil =>
      rw [digits] at length
      exact absurd length (Nat.ne_of_lt positive)
  | cons first rest =>
      rw [digits] at areDigits
      exact ⟨first, rest, rfl, areDigits first List.mem_cons_self⟩

theorem digitsValue_padded : digitsValue (padded width value) = value := by
  have zeros (count : Nat) (digits : List Char) :
      digitsValue (List.replicate count '0' ++ digits) = digitsValue digits := by
    induction count with
    | zero => rfl
    | succ count induction =>
        rw [List.replicate_succ, List.cons_append]
        exact induction
  unfold padded
  rw [zeros, Json.digitsValue_toDigits]

theorem readNumber_padded_of_le {least : Nat} (positive : 0 < width) (fits : value < 10 ^ width)
    (enough : least ≤ width) (rest : List Char) :
    readNumber least width (padded width value ++ rest) = some (value, rest) := by
  have length := padded_length positive fits
  have read := @readNumber_digits (padded width value) rest padded_areDigits least (by omega)
  rwa [length, digitsValue_padded] at read

theorem readNumber_padded (positive : 0 < width) (fits : value < 10 ^ width)
    (rest : List Char) : readNumber width width (padded width value ++ rest) =
      some (value, rest) :=
  readNumber_padded_of_le positive fits (Nat.le_refl width) rest

end Padded

theorem readCharacter_cons (character : Char) (rest : List Char) :
    readCharacter character (character :: rest) = some rest := if_pos rfl

/-! ## Fractions -/

theorem fractionNanos_padded {width value : Nat} (positive : 0 < width) (least : width ≤ 9)
    (fits : value < 10 ^ width) :
    fractionNanos (padded width value) = value * 10 ^ (9 - width) := by
  have length := padded_length positive fits
  have counted : (padded width value).take 9 = padded width value :=
    List.take_of_length_le (by omega)
  rw [fractionNanos, counted, digitsValue_padded, length]
  rfl

theorem readFraction_padded {width value : Nat} (positive : 0 < width) (least : width ≤ 9)
    (fits : value < 10 ^ width) {rest : List Char}
    (ends : ∀ character ∈ rest.head?, character.isDigit = false) :
    readFraction ('.' :: (padded width value ++ rest)) =
      some (value * 10 ^ (9 - width), rest) := by
  have filled : padded width value ≠ [] := by
    intro empty
    have length := padded_length positive fits
    rw [empty] at length
    exact absurd length (Nat.ne_of_lt positive)
  have taken := Json.AreDigits.takeDigits_append ⟨filled, padded_areDigits⟩ ends
  simp [readFraction, taken, filled, fractionNanos_padded positive least fits]

/-- A fraction of any of the four lengths is read to the nanoseconds that it was written for. -/
theorem readFraction_fractionText {nanos : Nat} (small : nanos < nanosPerSecond)
    (rest : List Char) :
    readFraction (fractionText nanos ++ 'Z' :: rest) = some (nanos, 'Z' :: rest) := by
  have ends : ∀ character ∈ ('Z' :: rest).head?, character.isDigit = false := by simp
  have billion : nanosPerSecond = 1000000000 := rfl
  rw [billion] at small
  unfold fractionText
  split
  · rename_i none
    rw [none]
    rfl
  · split
    · rename_i millis
      rw [List.cons_append, readFraction_padded (by decide) (by decide) (by omega) ends]
      congr 2
      omega
    · split
      · rename_i micros
        rw [List.cons_append, readFraction_padded (by decide) (by decide) (by omega) ends]
        congr 2
        omega
      · rw [List.cons_append, readFraction_padded (by decide) (by decide) small ends]
        congr 2
        omega

theorem fractionNanos_lt {digits : List Char}
    (areDigits : ∀ character ∈ digits, character.isDigit = true) :
    fractionNanos digits < nanosPerSecond := by
  have counted : digitsValue (digits.take 9) < 10 ^ (digits.take 9).length :=
    digitsValue_lt fun character member => areDigits character (List.mem_of_mem_take member)
  have least : (digits.take 9).length ≤ 9 := List.length_take_le 9 digits
  calc
    digitsValue (digits.take 9) * 10 ^ (9 - (digits.take 9).length)
      < 10 ^ (digits.take 9).length * 10 ^ (9 - (digits.take 9).length) :=
        Nat.mul_lt_mul_of_pos_right counted (Nat.pow_pos (by decide))
    _ = 10 ^ 9 := by rw [← Nat.pow_add, Nat.add_sub_cancel' least]
    _ = nanosPerSecond := rfl

theorem readFraction_lt {text rest : List Char} {nanos : Nat}
    (read : readFraction text = some (nanos, rest)) : nanos < nanosPerSecond := by
  unfold readFraction at read
  split at read
  · dsimp only at read
    split at read
    · cases read
    · cases read
      apply fractionNanos_lt
      intro character member
      exact List.mem_takeWhile_imp member
  · cases read
    decide

theorem FractionMark.read_lt {mark : FractionMark} {text rest : List Char} {nanos : Nat}
    (read : mark.read text = some (nanos, rest)) : nanos < nanosPerSecond := by
  cases mark with
  | point => exact readFraction_lt read
  | comma =>
      obtain ⟨_, -, read⟩ := Option.bind_eq_some_iff.mp read
      obtain ⟨⟨millis, _⟩, number, same⟩ := Option.bind_eq_some_iff.mp read
      cases same
      have bounded := readNumber_lt number
      have billion : nanosPerSecond = 1000000000 := rfl
      omega

/-! ## Dates and times -/

theorem daysInMonth_le (year : Int) (month : Nat) : daysInMonth year month ≤ 31 := by
  unfold daysInMonth
  split
  case h_12 => split <;> decide
  all_goals decide

theorem CivilDate.bounds {date : CivilDate} (valid : date.isValid = true) :
    date.month < 10 ^ 2 ∧ date.day < 10 ^ 2 := by
  simp only [isValid, Bool.and_eq_true, decide_eq_true_eq] at valid
  have longest := daysInMonth_le date.year date.month
  refine ⟨?_, by omega⟩
  by_contra late
  have none : daysInMonth date.year date.month = 0 := by
    unfold daysInMonth
    split <;> omega
  omega

theorem readRfc3339_text {date : CivilDate} {clock : ClockTime} (valid : date.isValid = true)
    (onClock : clock.isValid = true) (small : clock.nanos < nanosPerSecond)
    (fourDigits : 0 ≤ date.year ∧ date.year ≤ 9999) :
    readRfc3339 (dateText date ++ 'T' :: (clockText clock ++
      fractionText clock.nanos ++ "Z".toList)) = Instant.ofCivil date clock := by
  obtain ⟨year, month, day⟩ := date
  obtain ⟨hour, minute, second, nanos⟩ := clock
  obtain ⟨monthBound, dayBound⟩ := CivilDate.bounds valid
  simp only [ClockTime.isValid, Bool.and_eq_true, decide_eq_true_eq] at onClock
  dsimp only at monthBound dayBound small fourDigits
  obtain ⟨year, rfl⟩ := Int.eq_ofNat_of_zero_le fourDigits.1
  have yearBound : year < 10 ^ 4 := by omega
  have hourBound : hour < 10 ^ 2 := by omega
  have minuteBound : minute < 10 ^ 2 := by omega
  have secondBound : second < 10 ^ 2 := by omega
  have mark : "Z".toList = ['Z'] := rfl
  have joint (rest : List Char) : readJoint ('T' :: rest) = some rest := rfl
  have zone : readZone ['Z'] = some (0, []) := rfl
  have fraction := readFraction_fractionText small []
  simp only [readRfc3339, dateText, clockText, yearText, if_pos fourDigits, Int.toNat_natCast,
    List.append_assoc, List.cons_append, mark, bind, Option.bind, readCharacter_cons, joint,
    readNumber_padded Nat.zero_lt_two, readNumber_padded (Nat.zero_lt_succ 3), yearBound,
    monthBound, dayBound, hourBound, minuteBound, secondBound, fraction, zone, List.isEmpty_nil,
    if_true]
  cases Instant.ofCivil ⟨year, month, day⟩ ⟨hour, minute, second, nanos⟩ with
  | none => rfl
  | some instant => simp [Instant.atOffset]

/-! ## Instants -/

/-- Whether an instant goes past its second only in a leap second, which ends its minute. -/
structure Instant.IsProper (instant : Instant) : Prop where
  bounded : instant.nanos < 2 * nanosPerSecond
  leap : nanosPerSecond ≤ instant.nanos → instant.seconds % 60 = 59

namespace Instant

variable {instant : Instant}

theorem IsProper.of_nanos_lt (small : instant.nanos < nanosPerSecond) : instant.IsProper := by
  constructor
  · omega
  · intro leap
    omega

theorem ofCivil_isProper {date : CivilDate} {clock : ClockTime}
    (small : clock.nanos < nanosPerSecond) (exact : ofCivil date clock = some instant) :
    instant.IsProper := by
  unfold ofCivil at exact
  dsimp only at exact
  split at exact
  · cases exact
    cases leap : clock.second == 60 with
    | false => exact .of_nanos_lt small
    | true =>
        constructor
        · simp only [if_true]
          omega
        · intro _
          simp only [secondsPerDay, if_true]
          omega
  · cases exact

theorem IsProper.atOffset {offset : Int} (proper : instant.IsProper)
    (minutes : offset % 60 = 0) : (instant.atOffset offset).IsProper := by
  obtain ⟨bounded, leap⟩ := proper
  constructor
  · exact bounded
  · intro past
    have ends := leap past
    simp only [Instant.atOffset]
    omega

theorem clock_isValid (instant : Instant) : instant.clock.isValid = true := by
  have hour : instant.clock.hour ≤ 23 := by
    simp only [clock, secondsPerDay]
    omega
  have minute : instant.clock.minute ≤ 59 := by
    simp only [clock]
    omega
  have second : instant.clock.second ≤ 60 := by
    simp only [clock]
    split <;> omega
  simp [ClockTime.isValid, hour, minute, second]

theorem IsProper.clock_nanos_lt (proper : instant.IsProper) :
    instant.clock.nanos < nanosPerSecond := by
  have bounded := proper.bounded
  simp only [clock]
  split <;> omega

/-- The clock shows a leap second just where the nanoseconds go past the second. -/
theorem IsProper.ofCivil_eq (proper : instant.IsProper)
    (inRange : yearInRange instant.date.year = true) :
    ofCivil instant.date instant.clock = some instant := by
  have valid : instant.date.isValid = true := CivilDate.isValid_ofDays _
  have days : instant.date.toDays = instant.seconds / secondsPerDay :=
    CivilDate.toDays_ofDays _
  have onClock := instant.clock_isValid
  unfold ofCivil
  rw [valid, onClock, inRange, days]
  obtain ⟨seconds, nanos⟩ := instant
  obtain ⟨bounded, leap⟩ := proper
  dsimp only at bounded leap
  simp only [Bool.and_self, if_true, Option.some.injEq, clock, secondsPerDay, mk.injEq,
    beq_iff_eq]
  by_cases past : nanosPerSecond ≤ nanos
  · have ends := leap past
    have second : (seconds % 86400).toNat % 60 + 1 = 60 := by omega
    simp only [if_pos past, if_pos second]
    omega
  · have second : ¬ (seconds % 86400).toNat % 60 = 60 := by omega
    simp only [if_neg past, if_neg second, and_true]
    omega

end Instant

/-! ## Read instants -/

theorem readOffsetSize_minutes {text rest : List Char} {size : Int}
    (read : readOffsetSize text = some (size, rest)) : size % 60 = 0 := by
  obtain ⟨⟨hours, _⟩, -, read⟩ := Option.bind_eq_some_iff.mp read
  obtain ⟨_, -, read⟩ := Option.bind_eq_some_iff.mp read
  obtain ⟨⟨minutes, _⟩, -, same⟩ := Option.bind_eq_some_iff.mp read
  obtain ⟨-, same⟩ := Option.ite_none_right_eq_some.mp same
  cases same
  omega

/-- Offsets are whole minutes, so that no offset moves the end of a minute. -/
theorem readZone_minutes {text rest : List Char} {offset : Int}
    (read : readZone text = some (offset, rest)) : offset % 60 = 0 := by
  cases text with
  | nil => cases read
  | cons mark text =>
      simp only [readZone] at read
      by_cases utc : mark = 'Z' ∨ mark = 'z'
      · rw [if_pos utc] at read
        cases read
        rfl
      · rw [if_neg utc] at read
        obtain ⟨⟨size, _⟩, sized, signed⟩ := Option.bind_eq_some_iff.mp read
        have minutes := readOffsetSize_minutes sized
        split at signed
        · cases signed
        · split at signed
          · cases signed
            exact minutes
          · split at signed
            · cases signed
              omega
            · cases signed

namespace Instant

variable {instant : Instant}

theorem readRfc3339_isProper {text : List Char} (read : readRfc3339 text = some instant) :
    instant.IsProper := by
  -- Up to the fraction nothing that is read matters: date and time are checked as a whole.
  obtain ⟨⟨year, _⟩, -, read⟩ := Option.bind_eq_some_iff.mp read
  obtain ⟨_, -, read⟩ := Option.bind_eq_some_iff.mp read
  obtain ⟨⟨month, _⟩, -, read⟩ := Option.bind_eq_some_iff.mp read
  obtain ⟨_, -, read⟩ := Option.bind_eq_some_iff.mp read
  obtain ⟨⟨day, _⟩, -, read⟩ := Option.bind_eq_some_iff.mp read
  obtain ⟨_, -, read⟩ := Option.bind_eq_some_iff.mp read
  obtain ⟨⟨hour, _⟩, -, read⟩ := Option.bind_eq_some_iff.mp read
  obtain ⟨_, -, read⟩ := Option.bind_eq_some_iff.mp read
  obtain ⟨⟨minute, _⟩, -, read⟩ := Option.bind_eq_some_iff.mp read
  obtain ⟨_, -, read⟩ := Option.bind_eq_some_iff.mp read
  obtain ⟨⟨second, _⟩, -, read⟩ := Option.bind_eq_some_iff.mp read
  obtain ⟨⟨nanos, _⟩, fraction, read⟩ := Option.bind_eq_some_iff.mp read
  obtain ⟨⟨offset, _⟩, zone, read⟩ := Option.bind_eq_some_iff.mp read
  obtain ⟨shown, exact, same⟩ := Option.bind_eq_some_iff.mp read
  split at same
  · cases same
    exact (ofCivil_isProper (readFraction_lt fraction) exact).atOffset (readZone_minutes zone)
  · cases same

theorem readZoneless_isProper {joint : Joint} {mark : FractionMark} {text : List Char}
    (read : readZoneless joint mark text = some instant) : instant.IsProper := by
  obtain ⟨⟨year, _⟩, -, read⟩ := Option.bind_eq_some_iff.mp read
  obtain ⟨_, -, read⟩ := Option.bind_eq_some_iff.mp read
  obtain ⟨⟨month, _⟩, -, read⟩ := Option.bind_eq_some_iff.mp read
  obtain ⟨_, -, read⟩ := Option.bind_eq_some_iff.mp read
  obtain ⟨⟨day, _⟩, -, read⟩ := Option.bind_eq_some_iff.mp read
  obtain ⟨_, -, read⟩ := Option.bind_eq_some_iff.mp read
  obtain ⟨⟨hour, _⟩, -, read⟩ := Option.bind_eq_some_iff.mp read
  obtain ⟨_, -, read⟩ := Option.bind_eq_some_iff.mp read
  obtain ⟨⟨minute, _⟩, -, read⟩ := Option.bind_eq_some_iff.mp read
  obtain ⟨_, -, read⟩ := Option.bind_eq_some_iff.mp read
  obtain ⟨⟨second, _⟩, -, read⟩ := Option.bind_eq_some_iff.mp read
  obtain ⟨⟨nanos, _⟩, fraction, read⟩ := Option.bind_eq_some_iff.mp read
  obtain ⟨inUtc, exact, same⟩ := Option.bind_eq_some_iff.mp read
  split at same
  · cases same
    exact ofCivil_isProper (mark.read_lt fraction) exact
  · cases same

theorem read?_isProper {raw : String} (read : read? raw = some instant) : instant.IsProper := by
  simp only [read?, Option.orElse_eq_orElse, Option.orElse_eq_or, Option.or_eq_some_iff] at read
  rcases read with zoned | ⟨-, letter | ⟨-, point | ⟨-, comma⟩⟩⟩
  · exact readRfc3339_isProper zoned
  · exact readZoneless_isProper letter
  · exact readZoneless_isProper point
  · exact readZoneless_isProper comma

theorem ofMillis_isProper {millis : Int} (exact : ofMillis millis = some instant) :
    instant.IsProper := by
  unfold ofMillis at exact
  dsimp only at exact
  split at exact
  · cases exact
    apply IsProper.of_nanos_lt
    have billion : nanosPerSecond = 1000000000 := rfl
    dsimp only
    omega
  · cases exact

/-! ## The round trip -/

/-- A text with a digit in front and a letter behind has nothing to trim. -/
theorem trim_timestamp {first : Char} {text : List Char} (digit : first.isDigit = true) :
    (Text.trim (String.ofList (first :: text ++ ['Z']))).toList = first :: text ++ ['Z'] := by
  have shown : Text.isBlank first = false := Text.isBlank_of_isDigit digit
  have behind := Text.dropEnd_append_cons (by decide : Text.isBlank 'Z' = false)
    (first :: text) []
  rw [Text.trim, String.toList_ofList, String.toList_ofList, Text.trimFront, List.cons_append,
    List.dropWhile_cons_of_neg (by simp [shown]), ← List.cons_append, behind]
  rfl

theorem yearText_head {year : Int} (fourDigits : 0 ≤ year ∧ year ≤ 9999) :
    ∃ first rest, yearText year = first :: rest ∧ first.isDigit = true := by
  rw [yearText, if_pos fourDigits]
  exact padded_head (by decide) (by omega)

/-- A proper instant is read back from the text that is written for it. -/
theorem IsProper.read?_toJsonText (proper : instant.IsProper)
    (fourDigits : 0 ≤ instant.date.year ∧ instant.date.year ≤ 9999) :
    read? instant.toJsonText = some instant := by
  have inRange : yearInRange instant.date.year = true := by
    rw [yearInRange, Bool.and_eq_true, decide_eq_true_eq, decide_eq_true_eq, earliestYear,
      latestYear]
    omega
  have valid : instant.date.isValid = true := CivilDate.isValid_ofDays _
  have read := readRfc3339_text valid instant.clock_isValid proper.clock_nanos_lt fourDigits
  obtain ⟨first, rest, year, digit⟩ := yearText_head fourDigits
  obtain ⟨behind, written⟩ : ∃ behind, dateText instant.date ++ 'T' ::
      (clockText instant.clock ++ fractionText instant.clock.nanos ++ "Z".toList) =
        first :: behind ++ ['Z'] := by
    refine ⟨rest ++ ('-' :: (padded 2 instant.date.month ++ '-' :: padded 2 instant.date.day) ++
      'T' :: (clockText instant.clock ++ fractionText instant.clock.nanos)), ?_⟩
    simp [dateText, year]
  rw [toJsonText, withMark, read?, written, trim_timestamp digit, ← written, read,
    proper.ofCivil_eq inRange]
  rfl

end Instant

end NodeAdmin.Time
