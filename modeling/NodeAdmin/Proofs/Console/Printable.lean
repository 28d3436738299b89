import NodeAdmin.Proofs.Cost.Coherence
import NodeAdmin.Proofs.Json.Document
import NodeAdmin.Proofs.Time.Timestamps

/-!
# Texts without control characters

Amounts, instants and JSON texts hold no control character, whatever they are written from.
-/

namespace NodeAdmin

def Text.IsPrintable (text : List Char) : Prop := ∀ character ∈ text, 32 ≤ character.toNat

namespace Text.IsPrintable

variable {text : List Char}

theorem of_all (all : (text.all fun character => 32 ≤ character.toNat) = true) :
    IsPrintable text := forall_mem_of_all all

theorem nil : IsPrintable [] := List.forall_mem_nil _

theorem cons {first : Char} (head : 32 ≤ first.toNat) (tail : IsPrintable text) :
    IsPrintable (first :: text) := List.forall_mem_cons.mpr ⟨head, tail⟩

theorem append {front back : List Char} (left : IsPrintable front) (right : IsPrintable back) :
    IsPrintable (front ++ back) := List.forall_mem_append.mpr ⟨left, right⟩

theorem of_mem {whole : List Char} (printable : IsPrintable whole)
    (part : ∀ character ∈ text, character ∈ whole) : IsPrintable text :=
  fun character inside => printable character (part character inside)

theorem of_digits (digits : ∀ character ∈ text, character.isDigit = true) : IsPrintable text := by
  intro character inside
  have least : 48 ≤ character.toNat := (Char.isDigit_iff_toNat.mp (digits character inside)).1
  omega

theorem zeros (count : Nat) : IsPrintable (List.replicate count '0') := by
  intro character inside
  rw [List.eq_of_mem_replicate inside]
  decide

theorem toDigits (number : Nat) : IsPrintable (Nat.toDigits 10 number) :=
  of_digits fun _ inside => Nat.isDigit_of_mem_toDigits (by decide) (by decide) inside

theorem not_mem (printable : IsPrintable text) {control : Char} (isControl : control.toNat < 32) :
    control ∉ text :=
  fun inside => absurd (printable control inside) (Nat.not_le.mpr isControl)

end Text.IsPrintable

open Text

/-! ## Numbers -/

theorem isPrintable_natText (value : Nat) : IsPrintable (toString value).toList := by
  change IsPrintable (Nat.repr value).toList
  rw [Nat.repr, String.toList_ofList]
  exact .toDigits value

theorem isPrintable_intText (value : Int) : IsPrintable (toString value).toList := by
  cases value with
  | ofNat number => exact isPrintable_natText number
  | negSucc number =>
      change IsPrintable ("-" ++ toString (number + 1)).toList
      rw [String.toList_append]
      exact .append (.of_all (by decide)) (isPrintable_natText (number + 1))

theorem Double.isPrintable_positional (decimal : Decimal) :
    IsPrintable (Double.positional decimal) := by
  have digits : IsPrintable decimal.digits := .toDigits _
  unfold Double.positional
  dsimp only
  split
  · exact digits.append (.zeros _)
  · split
    · refine .append (digits.of_mem fun _ => List.mem_of_mem_take) ?_
      exact .cons (by decide) (digits.of_mem fun _ => List.mem_of_mem_drop)
    · exact .cons (by decide) (.cons (by decide) ((IsPrintable.zeros _).append digits))

theorem Double.isPrintable_plainText (value : Double) : IsPrintable value.plainText.toList := by
  cases value with
  | nan => exact .of_all (by decide)
  | number negative magnitude =>
      rw [Double.plainText, String.toList_append]
      apply IsPrintable.append
      · cases negative <;> exact .of_all (by decide)
      · split
        · exact .of_all (by decide)
        · rw [String.toList_ofList]
          exact isPrintable_positional _

namespace Amount

theorem isPrintable_of_isFigure {text : List Char}
    (figures : ∀ character ∈ text, isFigure character = true) : IsPrintable text := by
  intro character inside
  have isFigure := figures character inside
  rw [Amount.isFigure, Bool.or_eq_true, List.contains_iff_mem] at isFigure
  rcases isFigure with digit | other
  · exact IsPrintable.of_digits (List.forall_mem_singleton.mpr digit) character (by simp)
  · exact IsPrintable.of_all (by decide) character other

theorem isPrintable_fixedText (places : Nat) (value : Double) :
    IsPrintable (value.fixedText places).toList :=
  isPrintable_of_isFigure fun _ inside => isFigure_of_mem_fixedText inside

theorem isPrintable_cost (value : Double) : IsPrintable (cost value).toList :=
  isPrintable_of_isFigure fun _ inside => isFigure_of_mem_cost inside

theorem isPrintable_pricePerMillion (price : Double) :
    IsPrintable (pricePerMillion price).toList := by
  rw [pricePerMillion]
  split
  · exact .of_all (by decide)
  · simp only [String.toList_append]
    refine .append (.append (.of_all (by decide)) ?_) (.of_all (by decide))
    exact isPrintable_fixedText 2 price

theorem isPrintable_tokens (count : UInt64) : IsPrintable (tokens count).toList := by
  rw [tokens]
  split
  · rw [String.toList_append]
    exact (isPrintable_fixedText _ _).append (.of_all (by decide))
  · split
    · rw [String.toList_append]
      exact (isPrintable_fixedText _ _).append (.of_all (by decide))
    · rw [String.toList_ofList]
      exact .toDigits _

theorem isPrintable_groupThousands {digits : List Char} (printable : IsPrintable digits) :
    IsPrintable (groupThousands digits) := by
  induction digits with
  | nil => exact .nil
  | cons digit rest induction =>
      obtain ⟨head, tail⟩ := List.forall_mem_cons.mp printable
      rw [groupThousands]
      split
      · exact .cons head (.cons (by decide) (induction tail))
      · exact .cons head (induction tail)

/-- The figures of a balance stand in front of its unit. -/
theorem balance_eq_append (amount : Int64) (unit : String) :
    ∃ figures : String, IsPrintable figures.toList ∧ balance amount unit = figures ++ unit := by
  refine ⟨_, ?_, rfl⟩
  simp only [String.toList_append, String.toList_ofList]
  refine .append (.append ?_ (isPrintable_groupThousands (.toDigits _)))
    (.of_all (by decide))
  split <;> exact .of_all (by decide)

end Amount

/-! ## Instants -/

namespace Time

theorem isPrintable_padded (width value : Nat) : IsPrintable (padded width value) :=
  .of_digits padded_areDigits

theorem isPrintable_yearText (year : Int) : IsPrintable (yearText year) := by
  rw [yearText]
  split
  · exact isPrintable_padded _ _
  · refine .cons ?_ (isPrintable_padded _ _)
    split <;> decide

theorem Instant.isPrintable_shown (instant : Instant) : IsPrintable instant.shown.toList := by
  have pair (value : Nat) {mark : Char} (isMark : 32 ≤ mark.toNat) {text : List Char}
      (rest : IsPrintable text) : IsPrintable (padded 2 value ++ mark :: text) :=
    (isPrintable_padded 2 value).append (.cons isMark rest)
  rw [Instant.shown, String.toList_ofList]
  refine .append ?_ (.cons (by decide) ?_)
  · refine (isPrintable_yearText _).append (.cons (by decide) ?_)
    exact pair _ (by decide) (isPrintable_padded _ _)
  · exact pair _ (by decide) (pair _ (by decide) (isPrintable_padded _ _))

end Time

/-! ## JSON texts -/

namespace Json

theorem AreDigits.isPrintable {text : List Char} (areDigits : AreDigits text) :
    IsPrintable text := .of_digits areDigits.digits

theorem IsUnsigned.isPrintable {text : List Char} (isUnsigned : IsUnsigned text) :
    IsPrintable text := by
  cases isUnsigned with
  | parts isWhole isFraction isExponent =>
      refine isWhole.areDigits.isPrintable.append (.append ?_ ?_)
      · cases isFraction with
        | absent => exact .nil
        | point areDigits => exact .cons (by decide) areDigits.isPrintable
      · cases isExponent with
        | absent => exact .nil
        | power marked signed areDigits =>
            refine .cons ?_ (.append ?_ areDigits.isPrintable)
            · rcases marked with rfl | rfl <;> decide
            · rcases signed with rfl | rfl | rfl <;> exact .of_all (by decide)

theorem IsNumber.isPrintable {text : List Char} (isNumber : IsNumber text) :
    IsPrintable text := by
  cases isNumber with
  | unsigned isUnsigned => exact isUnsigned.isPrintable
  | negative isUnsigned => exact .cons (by decide) isUnsigned.isPrintable

theorem isPrintable_escape (character : Char) : IsPrintable (escape character) := by
  unfold escape
  repeat' split
  case isFalse.isFalse.isFalse.isFalse.isFalse.isFalse.isFalse.isTrue control =>
    have digits : ∀ code < 32, IsPrintable (lowerHex 4 code) := by
      intro code below
      interval_cases code <;> exact .of_all (by decide)
    exact .cons (by decide) (.cons (by decide) (digits _ control))
  case isFalse.isFalse.isFalse.isFalse.isFalse.isFalse.isFalse.isFalse noControl =>
    exact .cons (Nat.not_lt.mp noControl) .nil
  all_goals exact .of_all (by decide)

theorem isPrintable_quoted (value : String) : IsPrintable (quoted value) := by
  refine .cons (by decide) (.append ?_ (.of_all (by decide)))
  intro character inside
  obtain ⟨source, -, written⟩ := List.mem_flatMap.mp inside
  exact isPrintable_escape source character written

theorem isPrintable_compactItems {items : List Json}
    (each : ∀ item ∈ items, IsPrintable (compactText item)) :
    IsPrintable (compactItems items) := by
  induction items with
  | nil => exact .nil
  | cons item items induction =>
      obtain ⟨head, others⟩ := List.forall_mem_cons.mp each
      cases items with
      | nil => exact head
      | cons next items => exact head.append (.cons (by decide) (induction others))

theorem isPrintable_compactMembers {members : List (String × Json)}
    (each : ∀ member ∈ members, IsPrintable (compactText member.2)) :
    IsPrintable (compactMembers members) := by
  induction members with
  | nil => exact .nil
  | cons member members induction =>
      obtain ⟨head, others⟩ := List.forall_mem_cons.mp each
      have key := isPrintable_quoted member.1
      cases members with
      | nil => exact key.append (.cons (by decide) head)
      | cons next members =>
          refine key.append (.cons (by decide) (head.append (.cons (by decide) ?_)))
          exact induction others

theorem isPrintable_compactText (value : Json) : IsPrintable (compactText value) := by
  induction value using Json.induction with
  | null => exact .of_all (by decide)
  | bool value => cases value <;> exact .of_all (by decide)
  | integer value => exact (isNumber_integerText value).isPrintable
  | float value =>
      rw [compactText, floatText]
      split
      · rename_i written
        exact (isNumber_jsonText written).isPrintable
      · exact .of_all (by decide)
  | string value => exact isPrintable_quoted value
  | array items induction =>
      refine .cons (by decide) (.append ?_ (.of_all (by decide)))
      exact isPrintable_compactItems induction
  | object members induction =>
      refine .cons (by decide) (.append ?_ (.of_all (by decide)))
      exact isPrintable_compactMembers induction

theorem isPrintable_compact (value : Json) : IsPrintable value.compact.toList := by
  rw [compact, String.toList_ofList]
  exact isPrintable_compactText value

end Json

end NodeAdmin
