import NodeAdmin.Cost.Charge
import NodeAdmin.Model.Document
import NodeAdmin.Proofs.Json.Slots
import NodeAdmin.Proofs.Json.Wrapping
import NodeAdmin.Proofs.Time.UnixSeconds

/-!
# Context lengths of any value

Whatever stands as the context length of a model, the model is read, and so are all models around
it.  A number is cut to a whole word, anything else counts as no length, and only a positive length
is a window that the recommended floor depends on.
-/

namespace NodeAdmin

open Json

/-! ## Values of context lengths -/

/-- The whole part of a number, its fraction cut off towards zero. -/
inductive HasWholePart : Json → Int → Prop where
  | integer (number : Int) : HasWholePart (.integer number) number
  | float {negative : Bool} {magnitude : Magnitude} (finite : magnitude.IsFinite) :
      HasWholePart (.float (.number negative magnitude))
        ((Double.signedUnits negative magnitude).tdiv Double.unitsPerOne)

/-- The nearest whole number that is a signed word. -/
def clampedToWord (number : Int) : Int :=
  max (-Word.signedBound64) (min (Word.signedBound64 - 1) number)

/-- What a value means as a context length. -/
structure MeansLength (value : Json) (length : Option Int64) : Prop where
  kept : ∀ number, value = .integer number → Word.isSigned64 number = true →
    ∃ kept, length = some kept ∧ kept.toInt = number
  cut : ∀ whole, HasWholePart value whole →
    ∃ cut, length = some cut ∧ cut.toInt = clampedToWord whole
  absent : (∀ number, value ≠ .integer number) → (∀ number, value ≠ .float number) →
    length = none

theorem toInt_toInt64_finite {negative : Bool} {magnitude : Magnitude}
    (finite : magnitude.IsFinite) :
    (Double.number negative magnitude).toInt64.toInt =
      clampedToWord ((Double.signedUnits negative magnitude).tdiv Double.unitsPerOne) := by
  rw [Double.toInt_toInt64]
  unfold Double.toIntClamped Double.signedUnits clampedToWord
  dsimp only
  rw [Double.not_isInfiniteMagnitude finite, if_neg Bool.false_ne_true]
  cases negative with
  | false =>
      simp only [Bool.false_eq_true, if_false]
      rw [Int.tdiv_eq_ediv_of_nonneg (Int.natCast_nonneg _)]
  | true =>
      simp only [if_true]
      rw [Int.neg_tdiv, Int.tdiv_eq_ediv_of_nonneg (Int.natCast_nonneg _)]

/-- A whole number past the signed words stays past them as a double. -/
theorem toInt_toInt64_ofInt {number : Int} (large : Word.signedBound64 ≤ number) :
    (Double.ofInt number).toInt64.toInt = Word.signedBound64 - 1 := by
  have bound : Word.signedBound64 = 9223372036854775808 := rfl
  have first : (Magnitude.ofCount 9223372036854775808).units =
      9223372036854775808 * Double.unitsPerOne := by decide +kernel
  have atLeast : 9223372036854775808 * Double.unitsPerOne ≤
      (Magnitude.ofCount number.natAbs).units := by
    rw [← first]
    exact Magnitude.units_mono (Magnitude.ofCount_mono (by omega))
  have quotient := (Nat.le_div_iff_mul_le Double.unitsPerOne_pos).mpr atLeast
  have positive : decide (number < 0) = false := decide_eq_false (by omega)
  have double : Double.ofInt number = .number false (Magnitude.ofCount number.natAbs) := by
    rw [Double.ofInt, positive]
    rfl
  rw [double, Double.toInt_toInt64]
  unfold Double.toIntClamped
  dsimp only
  split
  · rfl
  · rw [if_neg Bool.false_ne_true, ← Int.natCast_ediv]
    omega

theorem contextLengthOf_means {value : Json}
    (word : ∀ number, value = .integer number → IsWord number) :
    MeansLength value (contextLengthOf value) := by
  have kept : ∀ number, value = .integer number → Word.isSigned64 number = true →
      ∃ kept, contextLengthOf value = some kept ∧ kept.toInt = number := by
    rintro number rfl signed
    rw [isSigned64_iff] at signed
    refine ⟨Int64.ofInt number, if_pos signed.2, ?_⟩
    exact Int64.toInt_ofInt_of_le (by omega) (by omega)
  constructor
  · exact kept
  · rintro whole hasPart
    cases hasPart with
    | integer =>
        have bounds := isWord_iff.mp (word whole rfl)
        have bound : Word.signedBound64 = 9223372036854775808 := rfl
        by_cases fits : whole < Word.signedBound64
        · obtain ⟨length, same, value⟩ :=
            kept whole rfl (isSigned64_iff.mpr ⟨bounds.1, by omega⟩)
          refine ⟨length, same, ?_⟩
          rw [value]
          unfold clampedToWord
          omega
        · refine ⟨(Double.ofInt whole).toInt64, if_neg fits, ?_⟩
          rw [toInt_toInt64_ofInt (by omega)]
          unfold clampedToWord
          omega
    | @float negative magnitude finite =>
        exact ⟨(Double.number negative magnitude).toInt64, rfl, toInt_toInt64_finite finite⟩
  · intro noInteger noFloat
    cases value with
    | integer number => exact absurd rfl (noInteger number)
    | float number => exact absurd rfl (noFloat number)
    | _ => rfl

theorem decodeContextLength_eq {site : Site} {tree : Tree} {value : Json}
    (read : tree.toJson site.level = .ok value) :
    decodeContextLength site tree = .ok (contextLengthOf value) :=
  decode_optional_json rfl read

/-- An object keeps its value with another member in place of those under some names. -/
theorem Json.Tree.hasValue_insert {names : List String} {members front back : List (Tree × Tree)}
    (split : front ++ back = withoutNames names members) {level : Nat}
    (held : (Tree.object members none).HasValue level) {name : String} {tree : Tree}
    (treeHeld : tree.HasValue (level + 1)) :
    (Tree.object (front ++ (.string (.ok name), tree) :: back) none).HasValue level := by
  obtain ⟨shallow, each, -⟩ := Tree.hasValue_object_iff.mp held
  have eachOther : ∀ member ∈ front ++ back,
      (∃ name, member.1.keyText = .ok name) ∧ member.2.HasValue (level + 1) := by
    intro member inside
    rw [split] at inside
    exact each member (List.mem_of_mem_filter inside)
  refine Tree.hasValue_object_iff.mpr ⟨shallow, ?_, rfl⟩
  simp only [List.forall_mem_append, List.forall_mem_cons] at eachOther ⊢
  exact ⟨eachOther.1, ⟨⟨name, rfl⟩, treeHeld⟩, eachOther.2⟩

/-! ## Windows -/

/-- Whether the window of a model is its positive context length, and its recommended floor depends
on the window and on nothing else of the length. -/
structure Model.UsesWindow (model : Model) : Prop where
  present : ∀ window, model.contextWindow = some window ↔
    ∃ length, model.contextLength = some length ∧ 0 < length.toInt ∧ window.toNat = length.toInt
  used : ∀ window, model.contextWindow = some window →
    model.recommendedMinimum =
      (tokenCost window model.inputPrice).max (tokenCost 100 model.inputPrice)
  unused : model.contextWindow = none →
    model.recommendedMinimum = tokenCost 1000 model.inputPrice

theorem toNat_toUInt64 {length : Int64} (positive : 0 < length.toInt) :
    (length.toUInt64.toNat : Int) = length.toInt := by
  rw [Int64.toInt, BitVec.toInt_eq_toNat_cond] at positive ⊢
  have small := length.toBitVec.isLt
  have same : length.toUInt64.toNat = length.toBitVec.toNat := rfl
  split at positive <;> omega

theorem Model.usesWindow (model : Model) : model.UsesWindow := by
  have present : ∀ window, model.contextWindow = some window ↔
      ∃ length, model.contextLength = some length ∧ 0 < length.toInt ∧
        window.toNat = length.toInt := by
    intro window
    rw [Model.contextWindow]
    cases model.contextLength with
    | none => simp
    | some length =>
        have positive : 0 < length ↔ 0 < length.toInt := Int64.lt_iff_toInt_lt
        simp only [Option.ite_none_right_eq_some, Option.some.injEq, positive]
        constructor
        · rintro ⟨isPositive, rfl⟩
          exact ⟨length, rfl, isPositive, toNat_toUInt64 isPositive⟩
        · rintro ⟨_, rfl, isPositive, same⟩
          refine ⟨isPositive, UInt64.toNat_inj.mp ?_⟩
          have own := toNat_toUInt64 isPositive
          omega
  constructor
  · exact present
  · intro window isWindow
    obtain ⟨length, -, isPositive, same⟩ := (present window).mp isWindow
    have positive : 0 < window := UInt64.lt_iff_toNat_lt.mpr (by rw [UInt64.toNat_zero]; omega)
    rw [Model.recommendedMinimum, isWindow]
    exact if_pos positive
  · intro noWindow
    rw [Model.recommendedMinimum, noWindow]
    rfl

namespace Model

/-! ## Models with another context length -/

/-- The names of the member for the context length. -/
def contextLengthKeys : List String := ["contextLength", "context_length"]

def Draft.putContextLength (length : Option (Option Int64)) (draft : Draft) : Draft :=
  { draft with contextLength := length }

theorem shape_hasSlot :
    shape.HasSlot contextLengthKeys (·.contextLength) Draft.putContextLength
      decodeContextLength := by
  constructor
  · intro name named
    rcases List.mem_pair.mp named with rfl | rfl <;> rfl
  · intro field isField other length
    simp only [shape, List.mem_cons, List.not_mem_nil, or_false] at isField
    rcases isField with rfl | rfl | rfl | rfl | rfl | rfl | rfl | rfl
    case inr.inr.inr.inr.inr.inr.inr => exact absurd rfl other
    all_goals exact RecordField.slot_ignores (fun _ => rfl) (fun _ _ => rfl)
  · exact fun _ _ => rfl
  · exact fun _ _ _ => rfl
  · rfl

theorem finished_putContextLength {draft : Draft} {model : Model}
    (finish : shape.finish draft = some model) (length : Option Int64) :
    shape.finished (draft.putContextLength (some length)) =
      .ok { model with contextLength := length } := by
  obtain ⟨id, isId, rfl⟩ := Option.map_eq_some_iff.mp finish
  rw [RecordShape.finished]
  simp only [shape, Draft.putContextLength, isId, Option.map_some, Option.join_some]

/-! ## Places of models -/

/-- Where a model stands in a document: it is the document, or an item of a list of models, bare or
wrapped. -/
inductive Place where
  | alone
  | listed (wrapping : Wrapping "models") (before after : List Tree)

namespace Place

/-- The models of the document with a tree in a place. -/
def decode : Place → Decoder (List Model)
  | alone, site, tree => (Model.decode site tree).map fun model => [model]
  | listed wrapping before after, site, tree =>
      decodeList site (wrapping.tree (before ++ tree :: after))

/-- How many models stand before a place. -/
def position : Place → Nat
  | alone => 0
  | listed _ before _ => before.length

/-- How many containers stand around a place. -/
def depth : Place → Nat
  | alone => 0
  | listed wrapping _ _ => wrapping.depth + 1

variable {site : Site}

/-- The model in a place, and what it takes to put another one there. -/
theorem exists_model {place : Place} {tree : Tree} {models : List Model}
    (read : place.decode site tree = .ok models) :
    ∃ (earlier : List Model) (model : Model) (later : List Model) (inside : Site),
      models = earlier ++ model :: later ∧ earlier.length = place.position ∧
      inside.level ≤ site.level + place.depth ∧ Model.decode inside tree = .ok model ∧
      ∀ other otherModel,
        (tree.HasValue (site.level + place.depth) → other.HasValue (site.level + place.depth)) →
          Model.decode inside other = .ok otherModel →
            place.decode site other = .ok (earlier ++ otherModel :: later) := by
  cases place with
  | alone =>
      rw [decode] at read
      cases readModel : Model.decode site tree with
      | error fault =>
          rw [readModel] at read
          cases read
      | ok model =>
          rw [readModel] at read
          refine ⟨[], model, [], site, (Except.ok.inj read).symm, rfl, Nat.le_refl _, readModel, ?_⟩
          intro other otherModel _ readOther
          rw [decode, readOther]
          rfl
  | listed wrapping before after =>
      obtain ⟨earlier, model, later, rfl, place, -, readModel, replaced⟩ :=
        wrapping.exists_value_of_listOrWrapped read
      obtain ⟨_, readDocument, -⟩ := bind_eq_ok_iff.mp read
      obtain ⟨-, -, each⟩ := Wrapping.hasValue_tree_iff.mp ⟨_, readDocument⟩
      have held := each tree (by simp)
      refine ⟨earlier, model, later, ⟨site.level + 1, .mismatched⟩, rfl, place, ?_, readModel, ?_⟩
      · rw [depth]
        dsimp only
        omega
      · intro other otherModel otherHeld readOther
        exact replaced other otherModel (otherHeld held) readOther

/-- A model is read with any value as its context length, alike but for that length, and nothing
else in the document depends on it. -/
theorem decode_anyContextLength {place : Place} {members : List (Tree × Tree)}
    {models : List Model} (read : place.decode site (.object members none) = .ok models) :
    ∃ (earlier : List Model) (model : Model) (later : List Model),
      models = earlier ++ model :: later ∧ earlier.length = place.position ∧
      ∀ front back name tree value, front ++ back = withoutNames contextLengthKeys members →
        name ∈ contextLengthKeys → tree.HasWords →
          tree.toJson (site.level + place.depth + 1) = .ok value →
            ∃ length, MeansLength value length ∧
              place.decode site (.object (front ++ (.string (.ok name), tree) :: back) none) =
                .ok (earlier ++ { model with contextLength := length } :: later) ∧
              UsesWindow { model with contextLength := length } := by
  obtain ⟨earlier, model, later, inside, rfl, isPosition, bound, readModel, replaced⟩ :=
    exists_model read
  obtain ⟨draft, finish, every⟩ := shape_hasSlot.decode_object readModel
  refine ⟨earlier, model, later, rfl, isPosition, ?_⟩
  intro front back name tree value split named words readTree
  have word : ∀ number, value = .integer number → IsWord number := by
    rintro number rfl
    cases words.fits readTree with
    | integer _ isWord => exact isWord
  have readInside : decodeContextLength inside.inner tree = .ok (contextLengthOf value) :=
    decodeContextLength_eq (Tree.toJson_of_le (Nat.add_le_add_right bound 1) tree readTree)
  refine ⟨contextLengthOf value, contextLengthOf_means word, ?_, usesWindow _⟩
  apply replaced
  · intro held
    exact Tree.hasValue_insert split held ⟨value, readTree⟩
  · rw [Model.decode, every front back name tree _ split named readInside,
      finished_putContextLength finish]

/-- The members of a model whose context length is no length. -/
def largeMembers : List (Tree × Tree) :=
  [(.string (.ok "contextLength"), .bool true), (.string (.ok "id"), .string (.ok "large"))]

/-- The later place in a wrapped list of two models. -/
def secondPlace : Place :=
  .listed (.member [] [] nofun) [.object [(.string (.ok "id"), .string (.ok "small"))] none] []

def freeModel (id : String) : Model := Model.ofPrices id Double.zero Double.zero

/-- A negative length is kept, and one past the signed words is cut to the last of them. -/
theorem decode_anyContextLength_secondPlace :
    secondPlace.decode ⟨0, .malformed⟩ (.object largeMembers none) =
        .ok [freeModel "small", freeModel "large"] ∧
      ∀ number ∈ [-1, 18446744073709551615], ∃ length : Int64,
        length.toInt = min number 9223372036854775807 ∧
        secondPlace.decode ⟨0, .malformed⟩
            (.object ([(.string (.ok "id"), .string (.ok "large"))] ++
              (.string (.ok "context_length"), .number (.ok (.whole number))) :: []) none) =
          .ok [freeModel "small", { freeModel "large" with contextLength := some length }] := by
  have read : secondPlace.decode ⟨0, .malformed⟩ (.object largeMembers none) =
      .ok [freeModel "small", freeModel "large"] := rfl
  refine ⟨read, ?_⟩
  intro number among
  obtain ⟨earlier, model, later, models, isPosition, every⟩ := decode_anyContextLength read
  obtain ⟨first, rfl⟩ := List.length_eq_one_iff.mp isPosition
  obtain ⟨rfl, rfl, rfl⟩ : freeModel "small" = first ∧ freeModel "large" = model ∧ [] = later := by
    simpa using models
  have word : IsWord number := by
    rw [isWord_iff]
    rcases List.mem_pair.mp among with rfl | rfl <;> omega
  have words : Tree.HasWords (.number (.ok (.whole number))) :=
    .number fun other same => Numeral.whole.inj (Except.ok.inj same) ▸ word
  obtain ⟨length, means, decoded, -⟩ :=
    every [(.string (.ok "id"), .string (.ok "large"))] [] "context_length" _ (.integer number)
      rfl (by decide) words rfl
  obtain ⟨cut, rfl, isCut⟩ := means.cut number (.integer number)
  refine ⟨cut, ?_, decoded⟩
  rw [isCut]
  rcases List.mem_pair.mp among with rfl | rfl <;> rfl

end Place

end Model

end NodeAdmin
