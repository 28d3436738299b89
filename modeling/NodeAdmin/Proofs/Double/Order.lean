import NodeAdmin.Double.Basic

/-!
# The larger of two doubles

Comparisons with not-a-number fail, and not-a-number loses against a number, so
the larger of two doubles is above one of them only if the other is.
-/

namespace NodeAdmin.Double

theorem lt_irrefl (value : Double) : value.lt value = false := by
  cases value with
  | nan => rfl
  | number negative magnitude => simp [lt]

theorem le_refl {value : Double} (isNumber : value ≠ .nan) : value.le value = true := by
  cases value with
  | nan => exact absurd rfl isNumber
  | number negative magnitude => simp [le]

theorem le_of_lt {left right : Double} (below : left.lt right = true) :
    left.le right = true := by
  cases left with
  | nan => cases below
  | number leftSign leftMagnitude =>
      cases right with
      | nan => cases below
      | number rightSign rightMagnitude =>
          simp only [lt, le, decide_eq_true_eq] at below ⊢
          exact Int.le_of_lt below

theorem le_of_not_lt {left right : Double} (leftNumber : left ≠ .nan)
    (rightNumber : right ≠ .nan) (notBelow : left.lt right = false) :
    right.le left = true := by
  cases left with
  | nan => exact absurd rfl leftNumber
  | number leftSign leftMagnitude =>
      cases right with
      | nan => exact absurd rfl rightNumber
      | number rightSign rightMagnitude =>
          simp only [lt, le, decide_eq_true_eq, decide_eq_false_iff_not] at notBelow ⊢
          exact Int.not_lt.mp notBelow

theorem le_of_not_le {left right : Double} (leftNumber : left ≠ .nan)
    (rightNumber : right ≠ .nan) (notAtMost : left.le right = false) :
    right.le left = true := by
  cases left with
  | nan => exact absurd rfl leftNumber
  | number leftSign leftMagnitude =>
      cases right with
      | nan => exact absurd rfl rightNumber
      | number rightSign rightMagnitude =>
          simp only [le, decide_eq_true_eq, decide_eq_false_iff_not] at notAtMost ⊢
          omega

theorem le_trans {left middle right : Double} (atMost : left.le middle = true)
    (further : middle.le right = true) : left.le right = true := by
  cases left with
  | nan => cases atMost
  | number leftSign leftMagnitude =>
      cases middle with
      | nan => cases further
      | number middleSign middleMagnitude =>
          cases right with
          | nan => cases further
          | number rightSign rightMagnitude =>
              simp only [le, decide_eq_true_eq] at atMost further ⊢
              exact Int.le_trans atMost further

theorem lt_of_le_of_lt {left middle right : Double} (atMost : left.le middle = true)
    (below : middle.lt right = true) : left.lt right = true := by
  cases left with
  | nan => cases atMost
  | number leftSign leftMagnitude =>
      cases middle with
      | nan => cases below
      | number middleSign middleMagnitude =>
          cases right with
          | nan => cases below
          | number rightSign rightMagnitude =>
              simp only [lt, le, decide_eq_true_eq] at atMost below ⊢
              exact Int.lt_of_le_of_lt atMost below

theorem numbers_of_le {left right : Double} (atMost : left.le right = true) :
    left ≠ .nan ∧ right ≠ .nan := by
  constructor
  · rintro rfl
    cases atMost
  · rintro rfl
    cases left <;> cases atMost

/-- Only numbers are below each other. -/
theorem numbers_of_lt {left right : Double} (below : left.lt right = true) :
    left ≠ .nan ∧ right ≠ .nan := by
  constructor
  · rintro rfl
    cases below
  · rintro rfl
    cases left <;> cases below

theorem max_of_numbers {left right : Double} (leftNumber : left ≠ .nan)
    (rightNumber : right ≠ .nan) :
    left.max right = if left.lt right = true then right else left := by
  cases left with
  | nan => exact absurd rfl leftNumber
  | number leftSign leftMagnitude =>
      cases right with
      | nan => exact absurd rfl rightNumber
      | number rightSign rightMagnitude => rfl

theorem max_nan_left (right : Double) : max .nan right = right := by
  cases right <;> rfl

theorem max_nan_right (left : Double) : left.max .nan = left := by
  cases left <;> rfl

theorem max_eq_or (left right : Double) :
    left.max right = left ∨ left.max right = right := by
  by_cases leftNumber : left = .nan
  · subst leftNumber
    exact .inr (max_nan_left right)
  · by_cases rightNumber : right = .nan
    · subst rightNumber
      exact .inl (max_nan_right left)
    · rw [max_of_numbers leftNumber rightNumber]
      split
      · exact .inr rfl
      · exact .inl rfl

/-- The larger of two doubles is above the first just if the second is. -/
theorem lt_max (left right : Double) : left.lt (left.max right) = left.lt right := by
  by_cases leftNumber : left = .nan
  · subst leftNumber
    rw [max_nan_left]
  · by_cases rightNumber : right = .nan
    · subst rightNumber
      rw [max_nan_right, lt_irrefl]
      cases left <;> rfl
    · rw [max_of_numbers leftNumber rightNumber]
      cases below : left.lt right with
      | true => rw [if_pos rfl, below]
      | false => rw [if_neg Bool.false_ne_true, lt_irrefl]

theorem le_max {left right : Double} (leftNumber : left ≠ .nan)
    (rightNumber : right ≠ .nan) :
    left.le (left.max right) = true ∧ right.le (left.max right) = true := by
  rw [max_of_numbers leftNumber rightNumber]
  cases below : left.lt right with
  | true => exact ⟨le_of_lt below, le_refl rightNumber⟩
  | false =>
      exact ⟨le_refl leftNumber, le_of_not_lt leftNumber rightNumber below⟩

theorem max_mono {left other : Double} (atMost : left.le other = true) (right : Double) :
    (left.max right).le (other.max right) = true := by
  obtain ⟨leftNumber, otherNumber⟩ := numbers_of_le atMost
  by_cases rightNumber : right = .nan
  · subst rightNumber
    rw [max_nan_right, max_nan_right]
    exact atMost
  · rw [max_of_numbers leftNumber rightNumber, max_of_numbers otherNumber rightNumber]
    cases otherBelow : other.lt right with
    | true =>
        rw [if_pos rfl, if_pos (lt_of_le_of_lt atMost otherBelow)]
        exact le_refl rightNumber
    | false =>
        rw [if_neg Bool.false_ne_true]
        cases leftBelow : left.lt right with
        | true => exact le_of_not_lt otherNumber rightNumber otherBelow
        | false => exact atMost

end NodeAdmin.Double
