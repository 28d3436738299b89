import NodeAdmin.Console.Render
import NodeAdmin.Proofs.Double.Order
import NodeAdmin.Proofs.Text.Ends

/-!
# Coherent cost reports

Whether the floor of a model was applied is decided once, and everything that is told
about a charge agrees with that decision: the final cost, the verdict, the breakdown
and the line with the cost.
-/

namespace NodeAdmin

/-! ## Charges -/

/-- How the costs of a charge and the decision about its floor fit together. -/
structure Charge.Coherent (charge : Charge) : Prop where
  final : charge.finalCost = charge.baseCost ∨ charge.finalCost = charge.minimum
  applied : charge.minimumApplied = true ↔ charge.baseCost.lt charge.minimum = true
  numbers : charge.minimumApplied = true →
    charge.baseCost ≠ .nan ∧ charge.minimum ≠ .nan
  bounds : charge.baseCost ≠ .nan → charge.minimum ≠ .nan →
    charge.baseCost.le charge.finalCost = true ∧
      charge.minimum.le charge.finalCost = true

/-- A charge is coherent if its final cost is the larger of the two others and the
decision compares the final cost with the base. -/
theorem Charge.coherent_of_max {charge : Charge}
    (final : charge.finalCost = charge.baseCost.max charge.minimum)
    (decided : charge.minimumApplied = charge.baseCost.lt charge.finalCost) :
    charge.Coherent := by
  have applied : charge.minimumApplied = charge.baseCost.lt charge.minimum := by
    rw [decided, final, Double.lt_max]
  constructor
  · rw [final]
    exact Double.max_eq_or charge.baseCost charge.minimum
  · rw [applied]
  · intro minimumApplied
    rw [applied] at minimumApplied
    exact Double.numbers_of_lt minimumApplied
  · intro baseNumber minimumNumber
    rw [final]
    exact Double.le_max baseNumber minimumNumber

theorem Model.charge_coherent (model : Model) (inputTokens outputTokens : UInt64) :
    (model.charge inputTokens outputTokens).Coherent := by
  apply Charge.coherent_of_max
  · simp only [charge]
  · simp only [charge]

/-- Whether a verdict tells the costs of a charge, and has a message just if the
floor was applied. -/
structure Validation.Restates (validation : Validation) (charge : Charge) : Prop where
  actual : validation.actualCost = charge.finalCost
  minimum : validation.minimumCost = charge.minimum
  message : validation.message.isSome = charge.minimumApplied

theorem Charge.validation_restates (charge : Charge) :
    charge.validation.Restates charge := by
  refine ⟨rfl, rfl, ?_⟩
  cases applied : charge.minimumApplied <;> simp [Charge.validation, applied]

/-! ## Breakdowns -/

namespace Amount

/-- The characters that amounts are written with. -/
def isFigure (character : Char) : Bool :=
  character.isDigit || "Free$-.NaNinf".toList.contains character

theorem isFigure_of_mem_toDigits {number : Nat} {character : Char}
    (member : character ∈ Nat.toDigits 10 number) : isFigure character = true := by
  have digit := Nat.isDigit_of_mem_toDigits (by decide) (by decide) member
  rw [isFigure, digit, Bool.true_or]

theorem isFigure_of_mem_fixedText {places : Nat} {value : Double} {character : Char}
    (member : character ∈ (value.fixedText places).toList) :
    isFigure character = true := by
  have plain (text : String) (figures : text.toList.all isFigure = true)
      (inText : character ∈ text.toList) : isFigure character = true :=
    List.all_eq_true.mp figures character inText
  cases value with
  | nan => exact plain "NaN" (by decide) member
  | number negative magnitude =>
      rw [Double.fixedText, String.toList_append, List.mem_append] at member
      rcases member with sign | body
      · cases negative with
        | false => exact absurd sign List.not_mem_nil
        | true => exact plain "-" (by decide) sign
      · split at body
        · exact plain "inf" (by decide) body
        · dsimp only at body
          split at body
          · rw [String.toList_ofList] at body
            exact isFigure_of_mem_toDigits body
          · rw [String.toList_ofList, List.mem_append, List.mem_cons,
              List.mem_append] at body
            rcases body with whole | rfl | zeros | fraction
            · exact isFigure_of_mem_toDigits whole
            · decide
            · rw [(List.mem_replicate.mp zeros).2]
              decide
            · exact isFigure_of_mem_toDigits fraction

theorem isFigure_of_mem_cost {value : Double} {character : Char}
    (member : character ∈ (cost value).toList) : isFigure character = true := by
  unfold cost at member
  split at member
  · exact List.all_eq_true.mp (by decide : "Free".toList.all isFigure = true) _ member
  · rcases List.mem_append.mp (String.toList_append ▸ member) with dollar | amount
    · exact List.all_eq_true.mp (by decide : "$".toList.all isFigure = true) _ dollar
    · exact isFigure_of_mem_fixedText amount

/-- Whether a text has a part with a label and an amount just if it should; without
the part not even the label is there. -/
structure HasPart (text label : String) (amount : Double) (wanted : Bool) : Prop where
  shown : wanted = true → (label ++ cost amount).toList <:+: text.toList
  hidden : label.toList <:+: text.toList → wanted = true

/-- The parts of a breakdown are those of the costs above zero and of an applied
floor. -/
structure Itemizes (text : String) (charge : Charge) : Prop where
  input : HasPart text "Input: " charge.inputCost charge.inputCost.isPositive
  output : HasPart text "Output: " charge.outputCost charge.outputCost.isPositive
  minimum : HasPart text "Minimum: " charge.minimum charge.minimumApplied

/-- The parts of a breakdown. -/
def parts (charge : Charge) : List String :=
  (if charge.inputCost.isPositive then ["Input: " ++ cost charge.inputCost] else []) ++
    (if charge.outputCost.isPositive then ["Output: " ++ cost charge.outputCost] else []) ++
    (if charge.minimumApplied then ["Minimum: " ++ cost charge.minimum] else [])

theorem breakdown_eq_join (charge : Charge) :
    breakdown charge = Text.join " | " (parts charge) := rfl

/-- The labels of the parts, with whether the parts are wanted. -/
theorem mem_parts_iff {charge : Charge} {part : String} :
    part ∈ parts charge ↔
      (charge.inputCost.isPositive = true ∧ part = "Input: " ++ cost charge.inputCost) ∨
        (charge.outputCost.isPositive = true ∧
          part = "Output: " ++ cost charge.outputCost) ∨
        (charge.minimumApplied = true ∧ part = "Minimum: " ++ cost charge.minimum) := by
  cases input : charge.inputCost.isPositive <;>
    cases output : charge.outputCost.isPositive <;>
    cases applied : charge.minimumApplied <;>
    simp [parts, input, output, applied]

/-- A character that is in no amount and in no separator comes from a label. -/
theorem mem_label_of_mem_breakdown {charge : Charge} {character : Char}
    (noFigure : isFigure character = false) (noSeparator : character ∉ " | ".toList)
    (member : character ∈ (breakdown charge).toList) :
    (charge.inputCost.isPositive = true ∧ character ∈ "Input: ".toList) ∨
      (charge.outputCost.isPositive = true ∧ character ∈ "Output: ".toList) ∨
      (charge.minimumApplied = true ∧ character ∈ "Minimum: ".toList) := by
  have ofLabel {label : String} {amount : Double}
      (inPart : character ∈ (label ++ cost amount).toList) :
      character ∈ label.toList := by
    rw [String.toList_append, List.mem_append] at inPart
    rcases inPart with inLabel | inAmount
    · exact inLabel
    · rw [isFigure_of_mem_cost inAmount] at noFigure
      cases noFigure
  rw [breakdown_eq_join] at member
  rcases Text.mem_join member with separator | ⟨part, inParts, inPart⟩
  · exact absurd separator noSeparator
  · rcases mem_parts_iff.mp inParts with
      ⟨wanted, rfl⟩ | ⟨wanted, rfl⟩ | ⟨wanted, rfl⟩
    · exact .inl ⟨wanted, ofLabel inPart⟩
    · exact .inr (.inl ⟨wanted, ofLabel inPart⟩)
    · exact .inr (.inr ⟨wanted, ofLabel inPart⟩)

theorem breakdown_itemizes (charge : Charge) : Itemizes (breakdown charge) charge := by
  have shown {part : String} (member : part ∈ parts charge) :
      part.toList <:+: (breakdown charge).toList := Text.infix_join member
  refine ⟨⟨?_, ?_⟩, ⟨?_, ?_⟩, ⟨?_, ?_⟩⟩
  · intro wanted
    exact shown (mem_parts_iff.mpr (.inl ⟨wanted, rfl⟩))
  · intro labelled
    have initial := labelled.subset (by decide : 'I' ∈ "Input: ".toList)
    rcases mem_label_of_mem_breakdown (by decide) (by decide) initial with
      ⟨wanted, -⟩ | ⟨-, other⟩ | ⟨-, other⟩
    · exact wanted
    · exact absurd other (by decide)
    · exact absurd other (by decide)
  · intro wanted
    exact shown (mem_parts_iff.mpr (.inr (.inl ⟨wanted, rfl⟩)))
  · intro labelled
    have initial := labelled.subset (by decide : 'O' ∈ "Output: ".toList)
    rcases mem_label_of_mem_breakdown (by decide) (by decide) initial with
      ⟨-, other⟩ | ⟨wanted, -⟩ | ⟨-, other⟩
    · exact absurd other (by decide)
    · exact wanted
    · exact absurd other (by decide)
  · intro wanted
    exact shown (mem_parts_iff.mpr (.inr (.inr ⟨wanted, rfl⟩)))
  · intro labelled
    have initial := labelled.subset (by decide : 'M' ∈ "Minimum: ".toList)
    rcases mem_label_of_mem_breakdown (by decide) (by decide) initial with
      ⟨-, other⟩ | ⟨-, other⟩ | ⟨wanted, -⟩
    · exact absurd other (by decide)
    · exact absurd other (by decide)
    · exact wanted

end Amount

/-! ## The line with the cost -/

namespace Console

theorem restart_of_not_mem {start text : List Char} (plain : escapeCharacter ∉ text) :
    restart start text = text := by
  induction text with
  | nil => rfl
  | cons character text induction =>
      have noEscape : character ≠ escapeCharacter := by
        rintro rfl
        exact plain List.mem_cons_self
      have rest := induction fun member => plain (List.mem_cons_of_mem _ member)
      rw [restart, rest]
      rintro others rfl
      exact absurd rfl noEscape

/-- A text without escapes stands in its styled form as it is. -/
theorem infix_styled {text : String} (plain : escapeCharacter ∉ text.toList)
    (colour : Bool) (style : Style) :
    text.toList <:+: (styled colour style text).toList := by
  cases colour with
  | false => simp [styled, styledTo, padRight]
  | true =>
      refine ⟨style.start, reset, ?_⟩
      simp [styled, styledTo, padRight, restart_of_not_mem plain]

/-- What the line with the cost says when the floor was applied. -/
def minimumMark : String := "(minimum applied)"

theorem minimumMark_infix_costLine_iff (colour : Bool) (charge : Charge) :
    minimumMark.toList <:+: (costLine colour charge).toList ↔
      charge.minimumApplied = true := by
  cases applied : charge.minimumApplied with
  | true =>
      refine ⟨fun _ => rfl, fun _ => ?_⟩
      have marked := infix_styled (by decide : escapeCharacter ∉ minimumMark.toList)
        colour .yellow
      have atEnd : (styled colour .yellow minimumMark).toList <:+
          (costLine colour charge).toList := by
        simp only [costLine, applied, if_true, String.toList_append]
        exact (List.suffix_append _ _).trans (List.suffix_append _ _)
      exact marked.trans atEnd.isInfix
  | false =>
      refine ⟨?_, fun marked => absurd marked Bool.false_ne_true⟩
      intro marked
      have opened := marked.subset (by decide : '(' ∈ minimumMark.toList)
      have noBracket : '(' ∉ (styled colour .cyan "Cost").toList := by
        cases colour <;> decide
      simp only [costLine, applied, Bool.false_eq_true, if_false, String.toList_append,
        List.mem_append] at opened
      rcases opened with (((blanks | label) | gap) | amount) | none
      · exact absurd blanks (by decide)
      · exact absurd label noBracket
      · exact absurd gap (by decide)
      · exact absurd (Amount.isFigure_of_mem_cost amount) (by decide)
      · exact absurd none (by decide)

/-- The fourth line of a rendered report has the cost, and says whether the floor was
applied. -/
structure ShowsCost (colour : Bool) (report : CostReport) : Prop where
  line : ∃ title tokens prices others, renderCost colour report =
    Text.join "\n" (title :: tokens :: prices :: costLine colour report.charge :: others)
  mark : minimumMark.toList <:+: (costLine colour report.charge).toList ↔
    report.charge.minimumApplied = true

theorem renderCost_showsCost (colour : Bool) (report : CostReport) :
    ShowsCost colour report :=
  ⟨⟨_, _, _, _, rfl⟩, minimumMark_infix_costLine_iff colour report.charge⟩

end Console

/-! ## Reports -/

/-- Everything that a report tells about the charge of a request agrees. -/
structure CostReport.Coherent (model : Model) (inputTokens outputTokens : UInt64)
    (report : CostReport) : Prop where
  charge : report.charge = model.charge inputTokens outputTokens
  floor : report.charge.minimum = model.minimumCharge
  costs : report.charge.Coherent
  verdict : report.validation = model.validate inputTokens outputTokens
  restates : report.validation.Restates report.charge
  breakdown : report.breakdown = Amount.breakdown report.charge
  itemizes : Amount.Itemizes report.breakdown report.charge
  shown : ∀ colour, Console.ShowsCost colour report

theorem CostReport.build_coherent (model : Model) (inputTokens outputTokens : UInt64) :
    (CostReport.build model inputTokens outputTokens).Coherent model inputTokens
      outputTokens where
  charge := by simp only [build]
  floor := by simp only [build, Model.charge]
  costs := by
    simp only [build]
    exact model.charge_coherent inputTokens outputTokens
  verdict := by simp only [build]
  restates := by
    simp only [build, Model.validate]
    exact Charge.validation_restates (model.charge inputTokens outputTokens)
  breakdown := by simp only [build]
  itemizes := by
    simp only [build]
    exact Amount.breakdown_itemizes (model.charge inputTokens outputTokens)
  shown := fun colour => Console.renderCost_showsCost colour _

end NodeAdmin
