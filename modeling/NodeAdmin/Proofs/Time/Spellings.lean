import Mathlib.Data.List.Basic
import NodeAdmin.Proofs.Time.Timestamps

/-!
# Spellings of one instant

A date and a time of day can be spelled with a zone or without one, joined by a letter or by a
blank, with a fraction behind a point or a comma.  Four readers are tried on such a text, one after
the other: where one of them takes it, no earlier one does, and what it reads is the same instant.
-/

namespace NodeAdmin.Time

/-! ## What is spelled -/

/-- A date and a time of day with the digits behind the point, if there is a point. -/
structure Spelled where
  date : CivilDate
  hour : Nat
  minute : Nat
  second : Nat
  fraction : Option (List Char)

namespace Spelled

/-- Whether the date is on the calendar and its year has four digits, and the time is on the
clock. -/
structure IsValid (spelled : Spelled) : Prop where
  onCalendar : spelled.date.isValid = true
  fourDigits : 0 ≤ spelled.date.year ∧ spelled.date.year ≤ 9999
  hour : spelled.hour ≤ 23
  minute : spelled.minute ≤ 59
  second : spelled.second ≤ 60
  digits : ∀ digits ∈ spelled.fraction, ∀ character ∈ digits, character.isDigit = true

/-- The nanoseconds of the fraction.  A point that has no digits behind it spells nothing. -/
def nanos? (spelled : Spelled) : Option Nat :=
  match spelled.fraction with
  | none => some 0
  | some [] => none
  | some (digit :: digits) => some (fractionNanos (digit :: digits))

/-- The instant in UTC.  Second 60 is second 59 with more nanoseconds. -/
def instant (spelled : Spelled) (nanos : Nat) : Instant where
  seconds := spelled.date.toDays * secondsPerDay +
    (spelled.hour * 3600 + spelled.minute * 60 + min 59 spelled.second : Nat)
  nanos := if spelled.second = 60 then nanos + nanosPerSecond else nanos

def instant? (spelled : Spelled) : Option Instant := spelled.nanos?.map spelled.instant

/-- The same with the digits past the ninth cut. -/
def cut (spelled : Spelled) : Spelled :=
  { spelled with fraction := spelled.fraction.map (List.take 9) }

/-! ## How it is spelled -/

def clockText (spelled : Spelled) : List Char :=
  Time.clockText ⟨spelled.hour, spelled.minute, spelled.second, 0⟩

def fractionText (spelled : Spelled) : List Char :=
  match spelled.fraction with
  | none => []
  | some digits => '.' :: digits

/-- Date and time with something between them and something behind. -/
def withJoint (spelled : Spelled) (joint : Char) (behind : List Char) : List Char :=
  dateText spelled.date ++ joint :: (spelled.clockText ++ behind)

end Spelled

/-- Hours and minutes of an offset. -/
def offsetText (sign : Char) (hours minutes : Nat) : List Char :=
  sign :: (padded 2 hours ++ ':' :: padded 2 minutes)

/-- A text that spells date and time on a clock so many seconds east of UTC. -/
inductive Spells (spelled : Spelled) : Int → List Char → Prop where
  | zoneless {joint : Char} (isJoint : joint = 'T' ∨ joint = ' ') :
      Spells spelled 0 (spelled.withJoint joint spelled.fractionText)
  | comma {digits : List Char} (millis : spelled.fraction = some digits)
      (three : digits.length = 3) : Spells spelled 0 (spelled.withJoint ' ' (',' :: digits))
  | utc {joint letter : Char} (isJoint : joint = 'T' ∨ joint = 't' ∨ joint = ' ')
      (isLetter : letter = 'Z' ∨ letter = 'z') :
      Spells spelled 0 (spelled.withJoint joint (spelled.fractionText ++ [letter]))
  | east {joint : Char} {hours minutes : Nat} (isJoint : joint = 'T' ∨ joint = 't' ∨ joint = ' ')
      (hour : hours ≤ 23) (minute : minutes ≤ 59) :
      Spells spelled ((hours * 3600 + minutes * 60 : Nat) : Int)
        (spelled.withJoint joint (spelled.fractionText ++ offsetText '+' hours minutes))
  | west {joint sign : Char} {hours minutes : Nat}
      (isJoint : joint = 'T' ∨ joint = 't' ∨ joint = ' ') (isSign : sign = '-' ∨ sign = minusSign)
      (hour : hours ≤ 23) (minute : minutes ≤ 59) :
      Spells spelled (-((hours * 3600 + minutes * 60 : Nat) : Int))
        (spelled.withJoint joint (spelled.fractionText ++ offsetText sign hours minutes))

/-! ## Parts of a text -/

theorem trimFront_padded {width value : Nat} (positive : 0 < width) (fits : value < 10 ^ width)
    (rest : List Char) :
    Text.trimFront (padded width value ++ rest) = padded width value ++ rest := by
  obtain ⟨first, behind, text, digit⟩ := padded_head positive fits
  rw [text, List.cons_append]
  apply Text.trimFront_of_head
  rintro character ⟨⟩
  exact Text.isBlank_of_isDigit digit

theorem readLooseNumber_padded {value : Nat} (fits : value < 10 ^ 2) (rest : List Char) :
    readLooseNumber (padded 2 value ++ rest) = some (value, rest) := by
  rw [readLooseNumber, trimFront_padded Nat.zero_lt_two fits,
    readNumber_padded_of_le Nat.zero_lt_two fits Nat.one_lt_two.le]

theorem readLooseYear_padded {year : Nat} (fits : year < 10 ^ 4) (rest : List Char) :
    readLooseYear (padded 4 year ++ rest) = some ((year : Int), rest) := by
  have read : readNumber 1 4 (padded 4 year ++ rest) = some (year, rest) :=
    readNumber_padded_of_le (by decide) fits (by decide) rest
  rw [readLooseYear, trimFront_padded (by decide) fits]
  obtain ⟨first, behind, text, digit⟩ := padded_head (by decide) fits
  rw [text, List.cons_append] at read ⊢
  split
  · rename_i same
    cases same
    cases digit
  · rename_i same
    cases same
    cases digit
  · rw [read]
    rfl

/-- What a form without a zone has between date and time. -/
def Joint.mark : Joint → Char
  | letter => 'T'
  | blanks => ' '

theorem Joint.read_mark (form : Joint) {hour : Nat} (fits : hour < 10 ^ 2) (rest : List Char) :
    form.read (form.mark :: (padded 2 hour ++ rest)) = some (padded 2 hour ++ rest) := by
  cases form with
  | letter => exact readCharacter_cons 'T' _
  | blanks => exact congrArg some (trimFront_padded Nat.zero_lt_two fits rest)

/-- What another form has there is not read, or is no hour. -/
theorem Joint.read_other (form : Joint) {joint : Char}
    (isJoint : joint = 'T' ∨ joint = 't' ∨ joint = ' ') (other : joint ≠ form.mark)
    (rest : List Char) :
    form.read (joint :: rest) = none ∨
      form.read (joint :: rest) = some (joint :: rest) ∧
        readLooseNumber (joint :: rest) = none := by
  cases form with
  | letter => exact .inl (if_neg other)
  | blanks =>
      right
      rcases isJoint with rfl | rfl | rfl
      · exact ⟨rfl, rfl⟩
      · exact ⟨rfl, rfl⟩
      · exact absurd rfl other

/-- Whether what follows a fraction cannot be taken for a part of it. -/
def EndsFraction (behind : List Char) : Prop :=
  ∀ character ∈ behind.head?, character.isDigit = false ∧ character ≠ '.'

theorem endsFraction_nil : EndsFraction [] := fun _ first => nomatch first

namespace Spelled

variable {spelled : Spelled}

theorem readFraction_fractionText (valid : spelled.IsValid) {behind : List Char}
    (ends : EndsFraction behind) :
    readFraction (spelled.fractionText ++ behind) =
      spelled.nanos?.map fun nanos => (nanos, behind) := by
  have noDigit : ∀ character ∈ behind.head?, character.isDigit = false :=
    fun character first => (ends character first).1
  unfold fractionText nanos?
  cases fraction : spelled.fraction with
  | none =>
      cases behind with
      | nil => rfl
      | cons first behind =>
          have noPoint := (ends first rfl).2
          simp [readFraction, noPoint]
  | some digits =>
      have areDigits := valid.digits digits fraction
      cases digits with
      | nil =>
          have nothing : takeDigits behind = ([], behind) := by
            cases behind with
            | nil => rfl
            | cons first behind => simp [takeDigits, noDigit first rfl]
          simp [readFraction, nothing]
      | cons digit digits =>
          have filled : Json.AreDigits (digit :: digits) := ⟨by simp, areDigits⟩
          have taken := filled.takeDigits_append noDigit
          rw [List.cons_append] at taken
          simp [readFraction, taken]

theorem readFraction_fractionText_alone (valid : spelled.IsValid) :
    readFraction spelled.fractionText = spelled.nanos?.map fun nanos => (nanos, []) := by
  have read := readFraction_fractionText valid endsFraction_nil
  rwa [List.append_nil] at read

theorem IsValid.ofCivil_eq (valid : spelled.IsValid) (nanos : Nat) :
    Instant.ofCivil spelled.date ⟨spelled.hour, spelled.minute, spelled.second, nanos⟩ =
      some (spelled.instant nanos) := by
  obtain ⟨onCalendar, fourDigits, hour, minute, second, -⟩ := valid
  have inRange : yearInRange spelled.date.year = true := by
    rw [yearInRange, Bool.and_eq_true, decide_eq_true_eq, decide_eq_true_eq, earliestYear,
      latestYear]
    omega
  have onClock : ClockTime.isValid ⟨spelled.hour, spelled.minute, spelled.second, nanos⟩ =
      true := by
    simp [ClockTime.isValid, hour, minute, second]
  rw [Instant.ofCivil, onCalendar, onClock, inRange]
  simp only [Bool.and_self, if_true, beq_iff_eq, instant]
  congr 3
  split <;> omega

/-! ## The readers on date and time -/

/-- Whether the numbers of date and time have no more digits than they are spelled with. -/
structure Fits (spelled : Spelled) (year : Nat) : Prop where
  isYear : spelled.date.year = year
  year : year < 10 ^ 4
  month : spelled.date.month < 10 ^ 2
  day : spelled.date.day < 10 ^ 2
  hour : spelled.hour < 10 ^ 2
  minute : spelled.minute < 10 ^ 2
  second : spelled.second < 10 ^ 2

theorem IsValid.exists_fits (valid : spelled.IsValid) : ∃ year, spelled.Fits year := by
  obtain ⟨month, day⟩ := CivilDate.bounds valid.onCalendar
  obtain ⟨-, fourDigits, hour, minute, second, -⟩ := valid
  obtain ⟨year, isYear⟩ := Int.eq_ofNat_of_zero_le fourDigits.1
  exact ⟨year, isYear, by omega, month, day, by omega, by omega, by omega⟩

namespace Fits

variable {year : Nat}

theorem ofCivil_eq (fits : spelled.Fits year) (valid : spelled.IsValid) (nanos : Nat) :
    Instant.ofCivil ⟨year, spelled.date.month, spelled.date.day⟩
      ⟨spelled.hour, spelled.minute, spelled.second, nanos⟩ = some (spelled.instant nanos) := by
  rw [← fits.isYear]
  exact valid.ofCivil_eq nanos

theorem withJoint_eq (fits : spelled.Fits year) (joint : Char) (behind : List Char) :
    spelled.withJoint joint behind =
      padded 4 year ++ '-' :: (padded 2 spelled.date.month ++ '-' :: (padded 2 spelled.date.day ++
        joint :: (padded 2 spelled.hour ++ ':' :: (padded 2 spelled.minute ++
          ':' :: (padded 2 spelled.second ++ behind))))) := by
  have fourDigits : 0 ≤ (year : Int) ∧ (year : Int) ≤ 9999 := by
    have bound := fits.year
    omega
  simp [withJoint, dateText, clockText, Time.clockText, fits.isYear, yearText, fourDigits]

end Fits

theorem readRfc3339_withJoint (valid : spelled.IsValid) {joint : Char}
    (isJoint : joint = 'T' ∨ joint = 't' ∨ joint = ' ') (behind : List Char) :
    readRfc3339 (spelled.withJoint joint behind) =
      (readFraction behind).bind fun fraction =>
        (readZone fraction.2).bind fun zone =>
          if zone.2.isEmpty then some ((spelled.instant fraction.1).atOffset zone.1)
          else none := by
  obtain ⟨year, fits⟩ := valid.exists_fits
  have joined (rest : List Char) : readJoint (joint :: rest) = some rest := by
    rcases isJoint with rfl | rfl | rfl <;> rfl
  rw [fits.withJoint_eq]
  simp only [readRfc3339, bind, readCharacter_cons, joined, Option.bind_some,
    readNumber_padded (Nat.zero_lt_succ 3) fits.year,
    readNumber_padded Nat.zero_lt_two fits.month, readNumber_padded Nat.zero_lt_two fits.day,
    readNumber_padded Nat.zero_lt_two fits.hour, readNumber_padded Nat.zero_lt_two fits.minute,
    readNumber_padded Nat.zero_lt_two fits.second, fits.ofCivil_eq valid]

theorem readZoneless_withJoint (valid : spelled.IsValid) (form : Joint) (mark : FractionMark)
    {joint : Char} (isJoint : joint = 'T' ∨ joint = 't' ∨ joint = ' ') (behind : List Char) :
    readZoneless form mark (spelled.withJoint joint behind) =
      if joint = form.mark then
        (mark.read behind).bind fun fraction =>
          if fraction.2.isEmpty then some (spelled.instant fraction.1) else none
      else none := by
  obtain ⟨year, fits⟩ := valid.exists_fits
  rw [fits.withJoint_eq]
  simp only [readZoneless, bind, readCharacter_cons, readLooseYear_padded fits.year,
    readLooseNumber_padded fits.month, readLooseNumber_padded fits.day, Option.bind_some]
  by_cases own : joint = form.mark
  · subst own
    rw [if_pos rfl, form.read_mark fits.hour]
    simp only [Option.bind_some, readCharacter_cons, readLooseNumber_padded fits.hour,
      readLooseNumber_padded fits.minute, readLooseNumber_padded fits.second,
      fits.ofCivil_eq valid]
  · rw [if_neg own]
    -- Where the joint is not refused, it is left in front of the hour.
    rcases form.read_other isJoint own (padded 2 spelled.hour ++ ':' ::
      (padded 2 spelled.minute ++ ':' :: (padded 2 spelled.second ++ behind))) with
      refused | ⟨kept, noNumber⟩
    · rw [refused, Option.bind_none]
    · rw [kept, Option.bind_some, noNumber, Option.bind_none]

/-! ## Zones -/

theorem readZone_utc {letter : Char} (isLetter : letter = 'Z' ∨ letter = 'z') :
    readZone [letter] = some (0, []) := if_pos isLetter

theorem readZone_offset {sign : Char} (isSign : sign = '+' ∨ sign = '-' ∨ sign = minusSign)
    {hours minutes : Nat} (hour : hours ≤ 23) (minute : minutes ≤ 59) :
    readZone (offsetText sign hours minutes) =
      some (if sign = '+' then ((hours * 3600 + minutes * 60 : Nat) : Int)
        else -((hours * 3600 + minutes * 60 : Nat) : Int), []) := by
  have size : readOffsetSize (padded 2 hours ++ ':' :: padded 2 minutes) =
      some (((hours * 3600 + minutes * 60 : Nat) : Int), []) := by
    have last := readNumber_padded Nat.zero_lt_two (show minutes < 10 ^ 2 by omega) []
    rw [List.append_nil] at last
    have inHour : minutes < 60 := by omega
    simp only [readOffsetSize, bind, readNumber_padded Nat.zero_lt_two
      (show hours < 10 ^ 2 by omega), Option.bind_some, readCharacter_cons, last, if_pos inHour]
  have noLetter : ¬ (sign = 'Z' ∨ sign = 'z') := by
    rcases isSign with rfl | rfl | rfl <;> decide
  have inDay : ¬ secondsPerDay ≤ ((hours * 3600 + minutes * 60 : Nat) : Int) := by
    rw [secondsPerDay]
    omega
  simp only [offsetText, readZone, if_neg noLetter, bind, size, Option.bind_some, if_neg inDay]
  by_cases plus : sign = '+'
  · rw [if_pos plus, if_pos plus]
  · rw [if_neg plus, if_neg plus, if_pos (isSign.resolve_left plus)]

/-! ## All readers in turn -/

/-- What the readers find in a trimmed text, the first that finds anything. -/
def readInTurn (text : List Char) : Option Instant :=
  readRfc3339 text <|> readZoneless .letter .point text <|> readZoneless .blanks .point text <|>
    readZoneless .blanks .comma text

theorem read?_eq_readInTurn (raw : String) :
    Instant.read? raw = readInTurn (Text.trim raw).toList := rfl

theorem nanos?_eq_none_iff : spelled.nanos? = none ↔ spelled.fraction = some [] := by
  unfold nanos?
  split <;> simp_all

theorem nanos?_of_digits {digits : List Char} (fraction : spelled.fraction = some digits)
    (filled : digits ≠ []) : spelled.nanos? = some (fractionNanos digits) := by
  unfold nanos?
  split <;> simp_all

/-- Three digits are no offset: behind two of them a colon is missing. -/
theorem readOffsetSize_millis {digits : List Char}
    (areDigits : ∀ character ∈ digits, character.isDigit = true) (three : digits.length = 3) :
    readOffsetSize digits = none := by
  match digits, three with
  | [first, second, third], _ =>
      have front : ∀ character ∈ [first, second], character.isDigit = true := by
        intro character inside
        exact areDigits character (List.mem_append_left [third] inside)
      have hours : readNumber 2 2 [first, second, third] = some (_, [third]) :=
        readNumber_digits front (Nat.le_refl 2)
      have noColon : third ≠ ':' := by
        rintro rfl
        have digit := areDigits ':' (by simp)
        cases digit
      simp [readOffsetSize, hours, readCharacter, noColon]

section InTurn

variable {joint : Char} {zone : List Char} {offset : Int}

theorem readZoneless_point (valid : spelled.IsValid) (form : Joint)
    (isJoint : joint = 'T' ∨ joint = 't' ∨ joint = ' ') :
    readZoneless form .point (spelled.withJoint joint spelled.fractionText) =
      if joint = form.mark then spelled.instant? else none := by
  rw [readZoneless_withJoint valid form .point isJoint, FractionMark.read,
    readFraction_fractionText_alone valid, instant?]
  cases spelled.nanos? with
  | none => rfl
  | some nanos => rfl

/-- A point without digits is read by none. -/
theorem readZoneless_bare (valid : spelled.IsValid) (bare : spelled.fraction = some [])
    (form : Joint) (mark : FractionMark) (isJoint : joint = 'T' ∨ joint = 't' ∨ joint = ' ')
    (ends : EndsFraction zone) :
    readZoneless form mark (spelled.withJoint joint (spelled.fractionText ++ zone)) = none := by
  have refused : mark.read (spelled.fractionText ++ zone) = none := by
    cases mark with
    | point =>
        rw [FractionMark.read, readFraction_fractionText valid ends, nanos?_eq_none_iff.mpr bare]
        rfl
    | comma =>
        rw [fractionText, bare]
        rfl
  rw [readZoneless_withJoint valid form mark isJoint, refused]
  split <;> rfl

/-- A text with a zone is taken by the first reader or, for want of digits, by none. -/
theorem readInTurn_zoned (valid : spelled.IsValid)
    (isJoint : joint = 'T' ∨ joint = 't' ∨ joint = ' ') (ends : EndsFraction zone)
    (isZone : readZone zone = some (offset, [])) :
    readInTurn (spelled.withJoint joint (spelled.fractionText ++ zone)) =
      spelled.instant?.map (·.atOffset offset) := by
  have zoned : readRfc3339 (spelled.withJoint joint (spelled.fractionText ++ zone)) =
      spelled.instant?.map (·.atOffset offset) := by
    rw [readRfc3339_withJoint valid isJoint, readFraction_fractionText valid ends, instant?]
    cases spelled.nanos? with
    | none => rfl
    | some nanos => simp [isZone]
  unfold readInTurn
  rw [zoned, instant?]
  cases nanos : spelled.nanos? with
  | some value => rfl
  | none =>
      have bare := nanos?_eq_none_iff.mp nanos
      simp only [readZoneless_bare valid bare _ _ isJoint ends]
      rfl

/-- Without a zone the joint decides which reader takes the text. -/
theorem readInTurn_zoneless (valid : spelled.IsValid) (isJoint : joint = 'T' ∨ joint = ' ') :
    readInTurn (spelled.withJoint joint spelled.fractionText) = spelled.instant? := by
  have anyJoint : joint = 'T' ∨ joint = 't' ∨ joint = ' ' := isJoint.imp_right .inr
  have noZone : readRfc3339 (spelled.withJoint joint spelled.fractionText) = none := by
    rw [readRfc3339_withJoint valid anyJoint, readFraction_fractionText_alone valid]
    cases spelled.nanos? with
    | none => rfl
    | some nanos => rfl
  rw [readInTurn, noZone, readZoneless_point valid _ anyJoint,
    readZoneless_point valid _ anyJoint]
  cases nanos : spelled.nanos? with
  | none =>
      have bare := nanos?_eq_none_iff.mp nanos
      have comma := readZoneless_bare valid bare .blanks .comma anyJoint endsFraction_nil
      rw [List.append_nil] at comma
      rw [comma, instant?, nanos]
      rcases isJoint with rfl | rfl <;> rfl
  | some value =>
      rw [instant?, nanos]
      rcases isJoint with rfl | rfl <;> rfl

/-- Only the last reader takes what stands behind a comma. -/
theorem readInTurn_comma (valid : spelled.IsValid) {digits : List Char}
    (fraction : spelled.fraction = some digits) (three : digits.length = 3) :
    readInTurn (spelled.withJoint ' ' (',' :: digits)) = spelled.instant? := by
  have isJoint : ' ' = 'T' ∨ ' ' = 't' ∨ ' ' = ' ' := .inr (.inr rfl)
  have areDigits := valid.digits digits fraction
  have millis : readNumber 3 3 digits = some (digitsValue digits, []) := by
    have read := @readNumber_digits digits [] areDigits 3 (Nat.le_of_eq three.symm)
    rwa [three, List.append_nil] at read
  have found : spelled.instant? = some (spelled.instant (digitsValue digits * 1000000)) := by
    have nanos : fractionNanos digits = digitsValue digits * 1000000 := by
      rw [fractionNanos, List.take_of_length_le (by omega), three]
    rw [instant?, nanos?_of_digits fraction (by rintro rfl; cases three), nanos]
    rfl
  have noZone : readRfc3339 (spelled.withJoint ' ' (',' :: digits)) = none := by
    rw [readRfc3339_withJoint valid isJoint]
    simp [readFraction, readZone, readOffsetSize_millis areDigits three]
  rw [readInTurn, noZone, readZoneless_withJoint valid _ _ isJoint,
    readZoneless_withJoint valid _ _ isJoint, readZoneless_withJoint valid _ _ isJoint, found]
  simp [Joint.mark, FractionMark.read, readFraction, readCharacter, millis]

end InTurn

end Spelled

/-! ## Texts with blanks around -/

def Visible (text : List Char) : Prop := ∀ character ∈ text, Text.isBlank character = false

namespace Visible

theorem append {front back : List Char} (left : Visible front) (right : Visible back) :
    Visible (front ++ back) := List.forall_mem_append.mpr ⟨left, right⟩

theorem cons {first : Char} {rest : List Char} (head : Text.isBlank first = false)
    (tail : Visible rest) : Visible (first :: rest) := List.forall_mem_cons.mpr ⟨head, tail⟩

theorem of_digits {digits : List Char}
    (areDigits : ∀ character ∈ digits, character.isDigit = true) : Visible digits :=
  fun character inside => Text.isBlank_of_isDigit (areDigits character inside)

theorem padded {width value : Nat} : Visible (padded width value) := of_digits padded_areDigits

end Visible

namespace Spelled

variable {spelled : Spelled}

theorem visible_fractionText (valid : spelled.IsValid) : Visible spelled.fractionText := by
  unfold fractionText
  cases fraction : spelled.fraction with
  | none => exact List.forall_mem_nil _
  | some digits => exact .cons (by decide) (.of_digits (valid.digits digits fraction))

theorem visible_clockText : Visible spelled.clockText :=
  .append .padded (.cons (by decide) (.append .padded (.cons (by decide) .padded)))

theorem trim_withJoint (valid : spelled.IsValid) {joint : Char} {behind front back : List Char}
    (visible : Visible behind) (blankFront : ∀ character ∈ front, Text.isBlank character = true)
    (blankBack : ∀ character ∈ back, Text.isBlank character = true) :
    (Text.trim (String.ofList (front ++ spelled.withJoint joint behind ++ back))).toList =
      spelled.withJoint joint behind := by
  apply Text.trim_surrounded blankFront blankBack
  · obtain ⟨first, rest, year, digit⟩ := Instant.yearText_head valid.fourDigits
    rw [withJoint, dateText, year]
    rintro character ⟨⟩
    exact Text.isBlank_of_isDigit digit
  · have split : spelled.withJoint joint behind =
        (dateText spelled.date ++ [joint]) ++ (spelled.clockText ++ behind) := by
      simp [withJoint]
    have filled : spelled.clockText ++ behind ≠ [] := by
      obtain ⟨first, rest, hour, -⟩ := padded_head Nat.zero_lt_two
        (Nat.lt_of_le_of_lt valid.hour (by decide))
      rw [clockText, Time.clockText, hour]
      exact List.cons_ne_nil _ _
    rw [split, List.getLast?_append_of_ne_nil _ filled]
    intro character last
    exact visible_clockText.append visible character (List.mem_of_getLast? last)

/-! ## Reading and trimming spellings -/

variable {offset : Int} {text : List Char}

theorem visible_offsetText {sign : Char} (visible : Text.isBlank sign = false)
    {hours minutes : Nat} : Visible (offsetText sign hours minutes) :=
  .cons visible (.append .padded (.cons (by decide) .padded))

theorem endsFraction_offsetText {sign : Char}
    (isSign : sign = '+' ∨ sign = '-' ∨ sign = minusSign) (hours minutes : Nat) :
    EndsFraction (offsetText sign hours minutes) := by
  rintro character ⟨⟩
  rcases isSign with rfl | rfl | rfl <;> decide

theorem atOffset_zero (instant : Instant) : instant.atOffset 0 = instant := by
  rw [Instant.atOffset, Int.sub_zero]

/-- Every spelling is read as the instant in UTC, moved by its offset. -/
theorem readInTurn_eq (valid : spelled.IsValid) (spells : Spells spelled offset text) :
    readInTurn text = spelled.instant?.map (·.atOffset offset) := by
  have unmoved : spelled.instant?.map (·.atOffset 0) = spelled.instant? := by
    rw [funext atOffset_zero, Option.map_id']
  cases spells with
  | zoneless isJoint => rw [readInTurn_zoneless valid isJoint, unmoved]
  | comma millis three => rw [readInTurn_comma valid millis three, unmoved]
  | utc isJoint isLetter =>
      apply readInTurn_zoned valid isJoint _ (readZone_utc isLetter)
      rintro character ⟨⟩
      rcases isLetter with rfl | rfl <;> decide
  | east isJoint hour minute =>
      apply readInTurn_zoned valid isJoint (endsFraction_offsetText (.inl rfl) _ _)
      exact readZone_offset (.inl rfl) hour minute
  | west isJoint isSign hour minute =>
      apply readInTurn_zoned valid isJoint (endsFraction_offsetText (.inr isSign) _ _)
      rw [readZone_offset (.inr isSign) hour minute, if_neg]
      rcases isSign with rfl | rfl <;> decide

theorem trim_spelling (valid : spelled.IsValid) (spells : Spells spelled offset text)
    {front back : List Char} (blankFront : ∀ character ∈ front, Text.isBlank character = true)
    (blankBack : ∀ character ∈ back, Text.isBlank character = true) :
    (Text.trim (String.ofList (front ++ text ++ back))).toList = text := by
  have fraction := visible_fractionText valid
  cases spells with
  | zoneless isJoint => exact trim_withJoint valid fraction blankFront blankBack
  | comma millis three =>
      apply trim_withJoint valid _ blankFront blankBack
      exact .cons (by decide) (.of_digits (valid.digits _ millis))
  | utc isJoint isLetter =>
      apply trim_withJoint valid (fraction.append _) blankFront blankBack
      apply Visible.cons _ (List.forall_mem_nil _)
      rcases isLetter with rfl | rfl <;> decide
  | east isJoint hour minute =>
      exact trim_withJoint valid (fraction.append (visible_offsetText (by decide))) blankFront
        blankBack
  | west isJoint isSign hour minute =>
      apply trim_withJoint valid (fraction.append (visible_offsetText _)) blankFront blankBack
      rcases isSign with rfl | rfl <;> decide

/-! ## Digits past the ninth -/

theorem nanos?_cut (spelled : Spelled) : spelled.cut.nanos? = spelled.nanos? := by
  cases fraction : spelled.fraction with
  | none => rw [nanos?, nanos?, cut, fraction]; rfl
  | some digits =>
      cases digits with
      | nil => rw [nanos?, nanos?, cut, fraction]; rfl
      | cons digit digits =>
          have cutFraction : spelled.cut.fraction = some ((digit :: digits).take 9) := by
            rw [cut, fraction, Option.map_some]
          rw [nanos?_of_digits fraction (List.cons_ne_nil _ _),
            nanos?_of_digits cutFraction (List.cons_ne_nil _ _), fractionNanos, fractionNanos,
            List.take_take, Nat.min_self]

theorem instant?_cut (spelled : Spelled) : spelled.cut.instant? = spelled.instant? := by
  rw [instant?, instant?, nanos?_cut]
  rfl

theorem IsValid.cut (valid : spelled.IsValid) : spelled.cut.IsValid := by
  obtain ⟨onCalendar, fourDigits, hour, minute, second, areDigits⟩ := valid
  refine ⟨onCalendar, fourDigits, hour, minute, second, ?_⟩
  intro digits fraction character inside
  obtain ⟨uncut, isFraction, rfl⟩ := Option.map_eq_some_iff.mp fraction
  exact areDigits uncut isFraction character (List.mem_of_mem_take inside)

theorem instant?_isSome_iff : spelled.instant?.isSome = true ↔ spelled.fraction ≠ some [] := by
  rw [instant?, Option.isSome_map, Option.isSome_iff_ne_none, ne_eq, nanos?_eq_none_iff]

end Spelled

/-! ## All spellings -/

/-- All spellings of an instant are read alike, with the digits past the ninth or without them and
with blanks around.  Only a point without digits is read in none. -/
theorem Instant.spellings_agree {spelled : Spelled} (valid : spelled.IsValid) :
    (spelled.instant?.isSome = true ↔ spelled.fraction ≠ some []) ∧
    ∀ (offset : Int) (text front back : List Char),
      Spells spelled offset text ∨ Spells spelled.cut offset text →
      (∀ character ∈ front, Text.isBlank character = true) →
      (∀ character ∈ back, Text.isBlank character = true) →
        read? (String.ofList (front ++ text ++ back)) =
          spelled.instant?.map (·.atOffset offset) := by
  refine ⟨Spelled.instant?_isSome_iff, ?_⟩
  intro offset text front back spells blankFront blankBack
  rcases spells with uncut | cut
  · rw [Spelled.read?_eq_readInTurn, Spelled.trim_spelling valid uncut blankFront blankBack,
      Spelled.readInTurn_eq valid uncut]
  · rw [Spelled.read?_eq_readInTurn, Spelled.trim_spelling valid.cut cut blankFront blankBack,
      Spelled.readInTurn_eq valid.cut cut, Spelled.instant?_cut]

/-- A leap second with ten digits behind the point. -/
def leapSecond : Spelled :=
  ⟨⟨2016, 12, 31⟩, 23, 59, 60, some ['1', '2', '3', '4', '5', '6', '7', '8', '9', '9']⟩

theorem leapSecond_isValid : leapSecond.IsValid := by
  refine ⟨by decide, by decide, by decide, by decide, by decide, ?_⟩
  rintro digits ⟨⟩
  exact List.all_eq_true.mp rfl

theorem Instant.spellings_agree_leapSecond :
    leapSecond.IsValid ∧
      read? " 2016-12-31T23:59:60.1234567899\n" = some ⟨1483228799, 1123456789⟩ ∧
      read? "2016-12-31 23:59:60.1234567899-05:30" = some ⟨1483248599, 1123456789⟩ := by
  obtain ⟨-, alike⟩ := Instant.spellings_agree leapSecond_isValid
  have found : leapSecond.instant? = some ⟨1483228799, 1123456789⟩ := by decide +kernel
  rw [found] at alike
  refine ⟨leapSecond_isValid, ?_, ?_⟩
  · have spells : Spells leapSecond 0 (leapSecond.withJoint 'T' leapSecond.fractionText) :=
      .zoneless (.inl rfl)
    have text : String.ofList ([' '] ++ leapSecond.withJoint 'T' leapSecond.fractionText ++
        ['\n']) = " 2016-12-31T23:59:60.1234567899\n" := by decide +kernel
    rw [← text, alike 0 _ [' '] ['\n'] (.inl spells) (List.forall_mem_singleton.mpr rfl)
      (List.forall_mem_singleton.mpr rfl)]
    rfl
  · have spells : Spells leapSecond (-((5 * 3600 + 30 * 60 : Nat) : Int)) (leapSecond.withJoint ' '
        (leapSecond.fractionText ++ offsetText '-' 5 30)) :=
      .west (.inr (.inr rfl)) (.inl rfl) (by decide) (by decide)
    have text : String.ofList ([] ++ leapSecond.withJoint ' '
        (leapSecond.fractionText ++ offsetText '-' 5 30) ++ []) =
          "2016-12-31 23:59:60.1234567899-05:30" := by decide +kernel
    rw [← text, alike _ _ [] [] (.inl spells) (List.forall_mem_nil _) (List.forall_mem_nil _)]
    rfl

end NodeAdmin.Time
