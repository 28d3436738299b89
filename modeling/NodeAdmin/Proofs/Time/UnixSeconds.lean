import NodeAdmin.Proofs.Cost.TokenCounts
import NodeAdmin.Proofs.Time.Calendar
import NodeAdmin.Time.Instant

/-!
# Whole seconds as doubles

A number of seconds is multiplied by a thousand, rounded and cut to a signed word before it is a
number of milliseconds.  Below `2 ^ 53` milliseconds nothing is lost on that way, and no date lies
further away: a number that is rounded or cut stays too large for a date.
-/

namespace NodeAdmin

namespace Double

/-! ## Signed words -/

/-- A whole number with a sign. -/
def signedWhole (negative : Bool) (whole : Nat) : Int :=
  if negative then -(whole : Int) else whole

theorem signedWhole_mul (negative : Bool) (whole factor : Nat) :
    signedWhole negative (whole * factor) = signedWhole negative whole * factor := by
  unfold signedWhole
  split
  · rw [Int.natCast_mul, Int.neg_mul]
  · exact Int.natCast_mul whole factor

theorem signedWhole_natAbs (number : Int) :
    signedWhole (decide (number < 0)) number.natAbs = number := by
  unfold signedWhole
  split
  · rename_i below
    have below := of_decide_eq_true below
    omega
  · rename_i atLeast
    have atLeast := of_decide_eq_false (Bool.not_eq_true _ ▸ atLeast)
    omega

theorem eq_natAbs_mul {negative : Bool} {count unit : Nat} {number : Int}
    (multiple : signedWhole negative count = number * unit) : count = number.natAbs * unit := by
  have sizes := congrArg Int.natAbs multiple
  rw [Int.natAbs_mul, Int.natAbs_natCast] at sizes
  rw [← sizes, signedWhole]
  split <;> omega

theorem signedUnits_eq (negative : Bool) (magnitude : Magnitude) :
    signedUnits negative magnitude = signedWhole negative magnitude.units := rfl

theorem toInt_toInt64 (value : Double) :
    value.toInt64.toInt =
      value.toIntClamped (-Word.signedBound64) (Word.signedBound64 - 1) := by
  have bound : Word.signedBound64 = 9223372036854775808 := rfl
  have bounds : -Word.signedBound64 ≤
        value.toIntClamped (-Word.signedBound64) (Word.signedBound64 - 1) ∧
      value.toIntClamped (-Word.signedBound64) (Word.signedBound64 - 1) ≤
        Word.signedBound64 - 1 := by
    unfold toIntClamped
    split
    · omega
    · split
      · split <;> omega
      · dsimp only
        omega
  unfold toInt64
  generalize value.toIntClamped (-Word.signedBound64) (Word.signedBound64 - 1) = clamped at bounds
  exact Int64.toInt_ofInt_of_le (by omega) (by omega)

variable {negative : Bool} {magnitude : Magnitude} {whole : Nat}

theorem toInt64_whole (finite : magnitude.IsFinite) (units : magnitude.units = whole * unitsPerOne)
    (small : whole < 2 * Magnitude.binadeSize) :
    (number negative magnitude).toInt64.toInt = signedWhole negative whole := by
  have bound : Word.signedBound64 = 9223372036854775808 := rfl
  have size : Magnitude.binadeSize = 4503599627370496 := rfl
  rw [toInt_toInt64]
  unfold toIntClamped signedWhole
  dsimp only
  rw [not_isInfiniteMagnitude finite, units, ← Int.natCast_ediv,
    Nat.mul_div_cancel _ unitsPerOne_pos]
  simp only [Bool.false_eq_true, if_false]
  split <;> omega

/-- What is cut to a word stays as large as the word can tell. -/
theorem toInt64_large (small : whole < 2 * Magnitude.binadeSize)
    (large : whole * unitsPerOne ≤ magnitude.units) :
    ∃ further, whole ≤ further ∧
      (number negative magnitude).toInt64.toInt = signedWhole negative further := by
  have bound : Word.signedBound64 = 9223372036854775808 := rfl
  have size : Magnitude.binadeSize = 4503599627370496 := rfl
  rw [toInt_toInt64]
  unfold toIntClamped signedWhole
  dsimp only
  by_cases infinite : isInfiniteMagnitude magnitude = true
  · rw [if_pos infinite]
    cases negative with
    | true =>
        refine ⟨9223372036854775808, by omega, ?_⟩
        simp only [if_true]
        omega
    | false =>
        refine ⟨9223372036854775807, by omega, ?_⟩
        simp only [Bool.false_eq_true, if_false]
        omega
  · have quotient : whole ≤ magnitude.units / unitsPerOne :=
      (Nat.le_div_iff_mul_le unitsPerOne_pos).mpr large
    rw [if_neg infinite, ← Int.natCast_ediv]
    generalize magnitude.units / unitsPerOne = units at quotient
    cases negative with
    | true =>
        refine ⟨min 9223372036854775808 units, by omega, ?_⟩
        simp only [if_true]
        omega
    | false =>
        refine ⟨min 9223372036854775807 units, by omega, ?_⟩
        simp only [Bool.false_eq_true, if_false]
        omega

/-! ## Rounding -/

theorem round_number (finite : magnitude.IsFinite) :
    (number negative magnitude).round = number negative
      (Magnitude.ofCount ((2 * magnitude.units + unitsPerOne) / (2 * unitsPerOne))) := by
  unfold round
  dsimp only
  rw [not_isInfiniteMagnitude finite]
  rfl

theorem round_whole (finite : magnitude.IsFinite)
    (units : magnitude.units = whole * unitsPerOne) :
    (number negative magnitude).round = number negative (Magnitude.ofCount whole) := by
  have nearest : (2 * magnitude.units + unitsPerOne) / (2 * unitsPerOne) = whole := by
    have positive := unitsPerOne_pos
    rw [units]
    generalize unitsPerOne = unit at positive
    apply Nat.div_eq_of_lt_le
    · linarith
    · linarith
  rw [round_number finite, nearest]

theorem ofCount_large (small : whole < 2 * Magnitude.binadeSize) {count : Nat}
    (atLeast : whole ≤ count) : whole * unitsPerOne ≤ (Magnitude.ofCount count).units := by
  rw [← Magnitude.ofCount_units small]
  exact Magnitude.units_mono (Magnitude.ofCount_mono atLeast)

theorem round_large (small : whole < 2 * Magnitude.binadeSize)
    (large : whole * unitsPerOne ≤ magnitude.units) :
    ∃ rounded : Magnitude, (number negative magnitude).round = number negative rounded ∧
      whole * unitsPerOne ≤ rounded.units := by
  by_cases finite : magnitude.IsFinite
  · refine ⟨_, round_number finite, ofCount_large small ?_⟩
    have positive := unitsPerOne_pos
    rw [Nat.le_div_iff_mul_le (Nat.mul_pos Nat.two_pos positive)]
    linarith
  · obtain rfl := Magnitude.eq_infinite finite
    refine ⟨Magnitude.infinite, ?_, large⟩
    have infinite : isInfiniteMagnitude Magnitude.infinite = true := beq_iff_eq.mpr rfl
    unfold round
    dsimp only
    rw [if_pos infinite]

/-! ## A thousand times -/

theorem mul_thousand (finite : magnitude.IsFinite) :
    number negative magnitude * ofNat 1000 =
      number negative (Magnitude.ofQuotient (magnitude.units * 1000) 1) := by
  have thousand : (Magnitude.ofCount 1000).units = 1000 * unitsPerOne :=
    Magnitude.ofCount_units (by decide)
  have thousandFinite : (Magnitude.ofCount 1000).IsFinite :=
    Magnitude.ofCount_finite_of_lt (by decide)
  change Double.mul _ (number false (Magnitude.ofCount 1000)) = _
  unfold Double.mul
  dsimp only
  rw [not_isInfiniteMagnitude finite, not_isInfiniteMagnitude thousandFinite, thousand,
    ← Nat.mul_assoc, Magnitude.ofQuotient_mul_self _ unitsPerOne_pos, Bool.bne_false]
  rfl

theorem infinite_mul_thousand :
    number negative Magnitude.infinite * ofNat 1000 = number negative Magnitude.infinite := by
  cases negative with
  | true => decide +kernel
  | false => decide +kernel

end Double

namespace Time

/-! ## The range of dates -/

/-- The first second of the earliest year. -/
def earliestSecond : Int := CivilDate.toDays ⟨earliestYear, 1, 1⟩ * secondsPerDay

/-- The last second of the latest year. -/
def latestSecond : Int := CivilDate.toDays ⟨latestYear + 1, 1, 1⟩ * secondsPerDay - 1

/-- A second from which on no date is in range, and before whose negative none is. -/
def farSecond : Nat := 9000000000000

/-- Later days of an era are in later years, or later in the year. -/
theorem EraDay.year_mono {dayOfEra later : Int} (day : EraDay dayOfEra) (other : EraDay later)
    (order : dayOfEra ≤ later) :
    day.year < other.year ∨ day.year = other.year ∧ day.dayOfYear ≤ other.dayOfYear := by
  have found := day.dayOfYear_eq
  have otherFound := other.dayOfYear_eq
  have inYear := day.inYear
  have last : other.dayOfYear = 365 → other.year % 4 = 3 ∧
      (other.year % 100 = 99 → other.year = 399) := by
    obtain ⟨century, cycle, place, dayOfYear, inEra, inCentury, inCycle, inYear, leapDay, sum⟩ :=
      other
    dsimp only [EraDay.year]
    omega
  have bounds := other.inYear
  have within := day.year_bounds
  omega

theorem CivilDate.year_ofDays {days : Int} (day : EraDay ((days + 719468) % 146097)) :
    (ofDays days).year = day.year + (days + 719468) / 146097 * 400 +
      if 306 ≤ day.dayOfYear then 1 else 0 := by
  have inYear := day.inYear
  rw [ofDays_eq day, ofMarch]
  dsimp only
  split <;> split <;> omega

theorem CivilDate.year_mono {days later : Int} (order : days ≤ later) :
    (ofDays days).year ≤ (ofDays later).year := by
  obtain ⟨day⟩ := exists_eraDay days
  obtain ⟨other⟩ := exists_eraDay later
  have within := day.year_bounds
  have otherWithin := other.year_bounds
  rw [year_ofDays day, year_ofDays other]
  by_cases sameEra : (days + 719468) / 146097 = (later + 719468) / 146097
  · have years := day.year_mono other (by omega)
    split <;> split <;> omega
  · split <;> split <;> omega

/-- The years in range are those between two seconds. -/
theorem yearInRange_iff (instant : Instant) :
    yearInRange instant.date.year = true ↔
      earliestSecond ≤ instant.seconds ∧ instant.seconds ≤ latestSecond := by
  have first : earliestSecond = -96465292 * 86400 := by decide +kernel
  have last : latestSecond = 95026237 * 86400 - 1 := by decide +kernel
  have date : instant.date = CivilDate.ofDays (instant.seconds / 86400) := rfl
  rw [yearInRange, date, Bool.and_eq_true, decide_eq_true_eq, decide_eq_true_eq, first, last]
  constructor
  · rintro ⟨early, late⟩
    have before : (CivilDate.ofDays (-96465292 - 1)).year < earliestYear := by decide +kernel
    have behind : latestYear < (CivilDate.ofDays 95026237).year := by decide +kernel
    by_contra outside
    rcases Int.lt_or_le (instant.seconds / 86400) (-96465292) with below | above
    · have years := CivilDate.year_mono (Int.le_sub_one_of_lt below)
      omega
    · have years := CivilDate.year_mono (show 95026237 ≤ instant.seconds / 86400 by omega)
      omega
  · rintro ⟨early, late⟩
    have start : (CivilDate.ofDays (-96465292)).year = earliestYear := by decide +kernel
    have finish : (CivilDate.ofDays (95026237 - 1)).year = latestYear := by decide +kernel
    rw [← start, ← finish]
    exact ⟨CivilDate.year_mono (by omega), CivilDate.year_mono (by omega)⟩

namespace Instant

/-- Milliseconds of whole seconds. -/
theorem ofMillis_seconds (seconds : Int) :
    ofMillis (seconds * 1000) =
      if earliestSecond ≤ seconds ∧ seconds ≤ latestSecond then some ⟨seconds, 0⟩ else none := by
  have whole : seconds * 1000 / 1000 = seconds := Int.mul_ediv_cancel _ (by decide)
  have nothing : (seconds * 1000 % 1000).toNat * 1000000 = 0 := by omega
  unfold ofMillis
  dsimp only
  rw [whole, nothing]
  simp only [yearInRange_iff]

theorem ofMillis_far {negative : Bool} {millis : Nat} (far : farSecond * 1000 ≤ millis) :
    ofMillis (Double.signedWhole negative millis) = none := by
  have first : earliestSecond = -8334601228800 := by decide +kernel
  have last : latestSecond = 8210266876799 := by decide +kernel
  have beyond : farSecond = 9000000000000 := rfl
  unfold ofMillis
  dsimp only
  rw [if_neg]
  rw [yearInRange_iff]
  unfold Double.signedWhole
  dsimp only
  split <;> omega

/-! ## Whole seconds -/

section Seconds

open Double (number unitsPerOne signedWhole)

variable {negative : Bool} {magnitude : Magnitude} {whole : Nat}

theorem ofUnixSeconds_near (finite : magnitude.IsFinite)
    (units : magnitude.units = whole * unitsPerOne) (near : whole < farSecond) :
    ofUnixSeconds (number negative magnitude) =
      ofMillis (signedWhole negative (whole * 1000)) := by
  have small : whole * 1000 < 2 * Magnitude.binadeSize := by
    have size : Magnitude.binadeSize = 4503599627370496 := rfl
    have beyond : farSecond = 9000000000000 := rfl
    omega
  have product : Magnitude.ofQuotient (magnitude.units * 1000) 1 =
      Magnitude.ofCount (whole * 1000) := by
    rw [units, Nat.mul_right_comm]
    rfl
  have kept := Magnitude.ofCount_units small
  have keptFinite := Magnitude.ofCount_finite_of_lt small
  rw [ofUnixSeconds, Double.mul_thousand finite, product, Double.round_whole keptFinite kept,
    Double.toInt64_whole keptFinite kept small]

theorem ofUnixSeconds_far (far : farSecond * unitsPerOne ≤ magnitude.units) :
    ofUnixSeconds (number negative magnitude) = none := by
  have small : farSecond * 1000 < 2 * Magnitude.binadeSize := by decide
  obtain ⟨product, multiplied, large⟩ : ∃ product : Magnitude,
      number negative magnitude * Double.ofNat 1000 = number negative product ∧
        farSecond * 1000 * unitsPerOne ≤ product.units := by
    by_cases finite : magnitude.IsFinite
    · refine ⟨_, Double.mul_thousand finite, ?_⟩
      rw [← Magnitude.ofCount_units small]
      apply Magnitude.units_mono
      apply Magnitude.ofQuotient_mono Nat.one_pos
      linarith
    · obtain rfl := Magnitude.eq_infinite finite
      refine ⟨Magnitude.infinite, Double.infinite_mul_thousand, ?_⟩
      rw [← Magnitude.ofCount_units small]
      exact Magnitude.units_le_infinite _
  obtain ⟨rounded, rounds, stillLarge⟩ := Double.round_large small large
  obtain ⟨millis, beyond, cut⟩ := Double.toInt64_large small stillLarge
  rw [ofUnixSeconds, multiplied, rounds, cut]
  exact ofMillis_far beyond

theorem farSecond_outside {seconds : Int} (far : (farSecond : Int) ≤ seconds.natAbs) :
    ¬ (earliestSecond ≤ seconds ∧ seconds ≤ latestSecond) := by
  have first : earliestSecond = -8334601228800 := by decide +kernel
  have last : latestSecond = 8210266876799 := by decide +kernel
  have beyond : farSecond = 9000000000000 := rfl
  omega

/-- A whole number of seconds is the instant of that second, and none outside the dates. -/
theorem ofUnixSeconds_whole {seconds : Int} (finite : magnitude.IsFinite)
    (units : Double.signedUnits negative magnitude = seconds * unitsPerOne) :
    ofUnixSeconds (number negative magnitude) =
      if earliestSecond ≤ seconds ∧ seconds ≤ latestSecond then some ⟨seconds, 0⟩ else none := by
  rw [Double.signedUnits_eq] at units
  have unsigned : magnitude.units = seconds.natAbs * unitsPerOne := Double.eq_natAbs_mul units
  have signed : signedWhole negative seconds.natAbs = seconds := by
    have positive := Double.unitsPerOne_pos
    rw [unsigned, Double.signedWhole_mul] at units
    exact Int.eq_of_mul_eq_mul_right (by omega) units
  rcases Nat.lt_or_ge seconds.natAbs farSecond with near | far
  · rw [ofUnixSeconds_near finite unsigned near, Double.signedWhole_mul, signed]
    exact ofMillis_seconds seconds
  · have reached : farSecond * unitsPerOne ≤ magnitude.units := by
      rw [unsigned]
      exact Nat.mul_le_mul_right _ far
    rw [ofUnixSeconds_far reached, if_neg (farSecond_outside (Int.ofNat_le.mpr far))]

theorem ofUnixSeconds_ofInt (seconds : Int) :
    ofUnixSeconds (Double.ofInt seconds) =
      if earliestSecond ≤ seconds ∧ seconds ≤ latestSecond then some ⟨seconds, 0⟩ else none := by
  have counted : Double.ofInt seconds =
      number (decide (seconds < 0)) (Magnitude.ofCount seconds.natAbs) := rfl
  rw [counted]
  rcases Nat.lt_or_ge seconds.natAbs farSecond with near | far
  · have small : seconds.natAbs < 2 * Magnitude.binadeSize :=
      Nat.lt_trans near (by decide)
    apply ofUnixSeconds_whole (Magnitude.ofCount_finite_of_lt small)
    rw [Double.signedUnits_eq, Magnitude.ofCount_units small, Double.signedWhole_mul,
      Double.signedWhole_natAbs]
  · rw [ofUnixSeconds_far (Double.ofCount_large (by decide) far),
      if_neg (farSecond_outside (Int.ofNat_le.mpr far))]

end Seconds

end Instant

end Time

end NodeAdmin
