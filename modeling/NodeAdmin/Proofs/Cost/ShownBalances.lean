import NodeAdmin.CommandLine.Scope
import NodeAdmin.Cost.Amount
import NodeAdmin.Proofs.Json.NumberText

/-!
# Shown balances

A balance is shown as its sign, its digits in groups of three counted from the end, and its unit.
Without the commas the figures read as the amount, so that no two balances share a text.
-/

namespace NodeAdmin.Amount

open CommandLine (readInteger?)

/-! ## Groups of digits -/

/-- Digits in groups. -/
structure DigitGroups where
  first : List Char
  others : List (List Char)

namespace DigitGroups

def digits (groups : DigitGroups) : List Char := groups.first ++ groups.others.flatten

/-- The groups with a comma in front of each but the first. -/
def text (groups : DigitGroups) : List Char :=
  groups.first ++ groups.others.flatMap (',' :: ·)

/-- Whether all groups have three digits, of which only the first may lack some. -/
structure AreThousands (groups : DigitGroups) : Prop where
  filled : 1 ≤ groups.first.length
  atMost : groups.first.length ≤ 3
  others : ∀ group ∈ groups.others, group.length = 3

theorem length_flatten_mod {others : List (List Char)}
    (lengths : ∀ group ∈ others, group.length = 3) : others.flatten.length % 3 = 0 := by
  induction others with
  | nil => rfl
  | cons group others induction =>
      obtain ⟨length, rest⟩ := List.forall_mem_cons.mp lengths
      rw [List.flatten_cons, List.length_append, length, Nat.add_mod_left]
      exact induction rest

theorem AreThousands.length_mod {groups : DigitGroups} (thousands : groups.AreThousands) :
    groups.digits.length % 3 = groups.first.length % 3 := by
  have others := length_flatten_mod thousands.others
  rw [digits, List.length_append]
  omega

/-- A digit in front of a full group opens another one. -/
theorem AreThousands.opened {groups : DigitGroups} (thousands : groups.AreThousands)
    (full : groups.first.length = 3) (digit : Char) :
    AreThousands ⟨[digit], groups.first :: groups.others⟩ where
  filled := Nat.le_refl _
  atMost := by simp
  others := List.forall_mem_cons.mpr ⟨full, thousands.others⟩

theorem AreThousands.extended {groups : DigitGroups} (thousands : groups.AreThousands)
    (short : groups.first.length < 3) (digit : Char) :
    AreThousands ⟨digit :: groups.first, groups.others⟩ where
  filled := Nat.succ_le_succ (Nat.zero_le _)
  atMost := short
  others := thousands.others

theorem filter_comma {digits : List Char} (noComma : ',' ∉ digits) :
    digits.filter (· ≠ ',') = digits := by
  apply List.filter_eq_self.mpr
  intro digit member
  exact decide_eq_true fun comma => noComma (comma ▸ member)

theorem filter_others {others : List (List Char)} (noComma : ',' ∉ others.flatten) :
    (others.flatMap (',' :: ·)).filter (· ≠ ',') = others.flatten := by
  induction others with
  | nil => rfl
  | cons group others induction =>
      rw [List.flatten_cons, List.mem_append, not_or] at noComma
      rw [List.flatMap_cons, List.filter_append, induction noComma.2, List.flatten_cons]
      exact congrArg (· ++ others.flatten) (filter_comma noComma.1)

/-- Deleting the commas leaves the digits. -/
theorem filter_text {groups : DigitGroups} (noComma : ',' ∉ groups.digits) :
    groups.text.filter (· ≠ ',') = groups.digits := by
  rw [digits, List.mem_append, not_or] at noComma
  rw [text, digits, List.filter_append, filter_comma noComma.1, filter_others noComma.2]

theorem mem_text {groups : DigitGroups} {character : Char} (member : character ∈ groups.text) :
    character = ',' ∨ character ∈ groups.digits := by
  rw [text, List.mem_append, List.mem_flatMap] at member
  rw [digits, List.mem_append, List.mem_flatten]
  rcases member with inFirst | ⟨group, listed, inGroup⟩
  · exact .inr (.inl inFirst)
  · rcases List.mem_cons.mp inGroup with comma | digit
    · exact .inl comma
    · exact .inr (.inr ⟨group, listed, digit⟩)

end DigitGroups

/-- A comma stands wherever a multiple of three digits follows, which is where a group ends. -/
theorem exists_groups {digits : List Char} (filled : digits ≠ []) :
    ∃ groups : DigitGroups, groups.AreThousands ∧ groups.digits = digits ∧
      groupThousands digits = groups.text := by
  induction digits with
  | nil => exact absurd rfl filled
  | cons digit rest induction =>
      by_cases last : rest = []
      · subst last
        refine ⟨⟨[digit], []⟩, ⟨Nat.le_refl _, by simp, nofun⟩, rfl, ?_⟩
        rw [groupThousands, if_neg (fun comma => comma.2 rfl), groupThousands]
        rfl
      · obtain ⟨groups, thousands, sameDigits, written⟩ := induction last
        have length := thousands.length_mod
        have filledFirst := thousands.filled
        have atMost := thousands.atMost
        rw [sameDigits] at length
        rw [groupThousands, written, ← sameDigits]
        by_cases full : rest.length % 3 = 0
        · rw [if_pos ⟨sameDigits ▸ full, sameDigits ▸ last⟩]
          exact ⟨_, thousands.opened (by omega) digit, rfl, rfl⟩
        · rw [if_neg (fun comma => full (sameDigits ▸ comma.1))]
          exact ⟨_, thousands.extended (by omega) digit, rfl, rfl⟩

/-! ## Figures -/

/-- The figures of an amount: a sign if it is negative, and its digits in groups. -/
def figures (amount : Int64) (groups : DigitGroups) : List Char :=
  (if amount < 0 then ['-'] else []) ++ groups.text

/-- How the text of a balance shows its amount. -/
structure ShowsBalance (amount : Int64) (unit : String) (groups : DigitGroups) : Prop where
  text : (balance amount unit).toList = figures amount groups ++ ' ' :: unit.toList
  thousands : groups.AreThousands
  whole : Json.IsWhole groups.digits
  read : readInteger? ((figures amount groups).filter (· ≠ ',')) = some amount.toInt

theorem readInteger?_digits {digits : List Char} (areDigits : Json.AreDigits digits) :
    readInteger? digits = some (digitsValue digits : Int) ∧
      readInteger? ('-' :: digits) = some (-(digitsValue digits : Int)) := by
  have positive := areDigits.takeSign_append []
  rw [List.append_nil] at positive
  have all : digits.all Char.isDigit = true := List.all_eq_true.mpr areDigits.digits
  have nonempty : ¬ (digits.isEmpty ∨ ¬ digits.all Char.isDigit) := by
    simp [areDigits.filled, all]
  constructor
  · simp only [readInteger?, positive, if_neg nonempty, Bool.false_eq_true, if_false]
  · simp only [readInteger?, takeSign, if_neg nonempty, if_true]

theorem readInteger?_signed (amount : Int64) :
    readInteger? ((if amount < 0 then ['-'] else []) ++ Nat.toDigits 10 amount.toInt.natAbs) =
      some amount.toInt := by
  have negative : amount < 0 ↔ amount.toInt < 0 := Int64.lt_iff_toInt_lt
  have read := readInteger?_digits (Json.areDigits_toDigits amount.toInt.natAbs)
  rw [Json.digitsValue_toDigits] at read
  by_cases isNegative : amount < 0
  · have sign := negative.mp isNegative
    rw [if_pos isNegative, List.singleton_append, read.2]
    congr 1
    omega
  · have sign := mt negative.mpr isNegative
    rw [if_neg isNegative, List.nil_append, read.1]
    congr 1
    omega

theorem exists_showsBalance (amount : Int64) (unit : String) :
    ∃ groups, ShowsBalance amount unit groups := by
  have areDigits := Json.areDigits_toDigits amount.toInt.natAbs
  obtain ⟨groups, thousands, digits, written⟩ := exists_groups areDigits.filled
  have noComma : ',' ∉ groups.digits := by
    rw [digits]
    intro member
    exact absurd (areDigits.digits _ member) (by decide)
  refine ⟨groups, ?_, thousands, ?_, ?_⟩
  · simp only [balance, figures, written, String.toList_append, String.toList_ofList,
      List.append_assoc]
    split <;> rfl
  · rw [digits]
    exact Json.isWhole_toDigits _
  · have signKept : (if amount < 0 then ['-'] else []).filter (· ≠ ',') =
        if amount < 0 then ['-'] else [] := by
      split <;> decide
    rw [figures, List.filter_append, signKept, DigitGroups.filter_text noComma, digits]
    exact readInteger?_signed amount

namespace ShowsBalance

variable {amount : Int64} {unit : String} {groups : DigitGroups}

theorem blank_not_mem (shows : ShowsBalance amount unit groups) :
    ' ' ∉ figures amount groups := by
  have areDigits := shows.whole.areDigits
  intro member
  rcases List.mem_append.mp member with sign | inText
  · split at sign
    · exact absurd sign (by decide)
    · exact absurd sign List.not_mem_nil
  · rcases DigitGroups.mem_text inText with comma | digit
    · exact absurd comma (by decide)
    · exact absurd (areDigits.digits _ digit) (by decide)

/-- The figures end at the first blank, whatever the unit. -/
theorem takeWhile_text (shows : ShowsBalance amount unit groups) :
    (balance amount unit).toList.takeWhile (· ≠ ' ') = figures amount groups := by
  have noBlank : ∀ character ∈ figures amount groups, decide (character ≠ ' ') = true := by
    intro character member
    exact decide_eq_true fun blank => shows.blank_not_mem (blank ▸ member)
  rw [shows.text, List.takeWhile_append_of_pos noBlank]
  exact List.append_nil _

end ShowsBalance

/-- Every balance is shown in groups that read as its amount, and by no text of another one. -/
theorem balance_showsAmount (amount : Int64) (unit : String) :
    (∃ groups, ShowsBalance amount unit groups) ∧
      ∀ other otherUnit,
        balance other otherUnit = balance amount unit ↔ other = amount ∧ otherUnit = unit := by
  obtain ⟨groups, shows⟩ := exists_showsBalance amount unit
  refine ⟨⟨groups, shows⟩, ?_⟩
  intro other otherUnit
  constructor
  · intro same
    obtain ⟨otherGroups, otherShows⟩ := exists_showsBalance other otherUnit
    have sameFigures : figures other otherGroups = figures amount groups := by
      rw [← otherShows.takeWhile_text, ← shows.takeWhile_text, same]
    have sameUnit : otherUnit.toList = unit.toList := by
      have texts := congrArg String.toList same
      rw [otherShows.text, shows.text, sameFigures] at texts
      exact (List.cons.inj (List.append_cancel_left texts)).2
    have sameAmount : some other.toInt = some amount.toInt := by
      rw [← otherShows.read, ← shows.read, sameFigures]
    exact ⟨Int64.toInt_inj.mp (Option.some.inj sameAmount), String.toList_inj.mp sameUnit⟩
  · rintro ⟨rfl, rfl⟩
    rfl

end NodeAdmin.Amount
