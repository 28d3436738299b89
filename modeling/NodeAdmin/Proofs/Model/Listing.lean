import Mathlib.Data.List.Induction
import Mathlib.Data.List.Nodup
import Mathlib.Data.List.Perm.Basic
import Mathlib.Data.Prod.Lex
import Mathlib.Data.String.Basic
import NodeAdmin.Model.Catalog

/-!
# The catalog as a sorted partition

Models are first collected under the headings in the order in which these are met, and then
headings and models are sorted.  What comes out holds every model once, and it depends on the
order of the input only where models cannot be told apart by what they are sorted by.
-/

namespace NodeAdmin

/-! ## What decides the order -/

/-- Headings come in the order of their texts, the one of unknown providers behind all others. -/
def headingKey (heading : String) : Bool ×ₗ String :=
  toLex (decide (heading = otherProvider), heading)

/-- Models come enabled ones first, then by their names in lower case, then by their ids. -/
def Model.listingKey (model : Model) : Bool ×ₗ String ×ₗ String :=
  toLex (!model.enabled, toLex (Text.toLower model.displayName, model.id))

namespace Catalog

theorem headingLe_iff (left right : String) :
    headingLe left right = true ↔ headingKey left ≤ headingKey right := by
  unfold headingLe headingKey
  rw [Prod.Lex.toLex_le_toLex]
  by_cases leftOther : left = otherProvider
  · by_cases rightOther : right = otherProvider
    · simp [leftOther, rightOther]
    · simp [leftOther, rightOther]
  · by_cases rightOther : right = otherProvider
    · simp [leftOther, rightOther]
    · simp only [leftOther, rightOther, if_false, decide_false, Bool.false_or,
        Bool.not_eq_true', decide_eq_false_iff_not, not_lt, lt_self_iff_false, false_or, true_and]

theorem modelLe_iff (left right : Model) :
    modelLe left right = true ↔ left.listingKey ≤ right.listingKey := by
  unfold modelLe Model.listingKey
  rw [Prod.Lex.toLex_le_toLex, Prod.Lex.toLex_le_toLex]
  by_cases switches : left.enabled = right.enabled
  · by_cases names : Text.toLower left.displayName = Text.toLower right.displayName
    · simp only [switches, names, bne_self_eq_false, Bool.false_eq_true, if_false, if_true,
        Bool.not_eq_true', decide_eq_false_iff_not, not_lt, lt_self_iff_false, false_or, true_and]
    · simp only [switches, names, bne_self_eq_false, Bool.false_eq_true, if_false,
        decide_eq_true_eq, lt_self_iff_false, false_or, true_and, false_and, or_false]
  · cases leftSwitch : left.enabled <;> cases rightSwitch : right.enabled
    · exact absurd (leftSwitch.trans rightSwitch.symm) switches
    · simp
    · simp
    · exact absurd (leftSwitch.trans rightSwitch.symm) switches

/-! ## Stable sorting by a key -/

section Sorting

variable {α κ : Type} [LinearOrder κ] {le : α → α → Bool} {key : α → κ}

theorem trans_of_key (follows : ∀ left right, le left right = true ↔ key left ≤ key right)
    (left middle right : α) (first : le left middle = true) (second : le middle right = true) :
    le left right = true := by
  rw [follows] at first second ⊢
  exact le_trans first second

theorem total_of_key (follows : ∀ left right, le left right = true ↔ key left ≤ key right)
    (left right : α) : (le left right || le right left) = true := by
  rw [Bool.or_eq_true, follows, follows]
  exact le_total _ _

theorem pairwise_mergeSort_key (follows : ∀ left right, le left right = true ↔ key left ≤ key right)
    (items : List α) : (items.mergeSort le).Pairwise (key · ≤ key ·) := by
  have sorted : (items.mergeSort le).Pairwise (le · · = true) :=
    List.pairwise_mergeSort (trans_of_key follows) (total_of_key follows) items
  exact sorted.imp fun {left right} => (follows left right).mp

/-- Items of one key keep their order. -/
theorem filter_mergeSort_key (follows : ∀ left right, le left right = true ↔ key left ≤ key right)
    (items : List α) (value : κ) :
    (items.mergeSort le).filter (key · = value) = items.filter (key · = value) := by
  have level : (items.filter (key · = value)).Pairwise (le · · = true) := by
    apply List.pairwise_of_forall_mem_list
    intro left leftMember right rightMember
    have leftKey := of_decide_eq_true (List.mem_filter.mp leftMember).2
    have rightKey := of_decide_eq_true (List.mem_filter.mp rightMember).2
    rw [follows, leftKey, rightKey]
  have kept : (items.filter (key · = value)).Sublist (items.mergeSort le) :=
    List.sublist_mergeSort (trans_of_key follows) (total_of_key follows) level
      List.filter_sublist
  have inside := kept.filter (key · = value)
  rw [List.filter_filter] at inside
  simp only [Bool.and_self] at inside
  exact (inside.eq_of_length ((List.mergeSort_perm items le).filter _).length_eq.symm).symm

/-- Items with different keys are sorted the same way whatever order they come in. -/
theorem mergeSort_eq_of_perm (follows : ∀ left right, le left right = true ↔ key left ≤ key right)
    {items others : List α} (permuted : items.Perm others)
    (distinct : ∀ left ∈ items, ∀ right ∈ items, key left = key right → left = right) :
    items.mergeSort le = others.mergeSort le := by
  have sorted := pairwise_mergeSort_key follows items
  have otherSorted := pairwise_mergeSort_key follows others
  apply List.Perm.eq_of_pairwise _ sorted otherSorted
  · exact (List.mergeSort_perm items le).trans
      (permuted.trans (List.mergeSort_perm others le).symm)
  · intro left right leftMember rightMember atMost atLeast
    rw [List.mem_mergeSort] at leftMember rightMember
    exact distinct left leftMember right (permuted.mem_iff.mpr rightMember)
      (le_antisymm atMost atLeast)

end Sorting

/-! ## Collecting -/

/-- Groups that were collected from models: every model is under its heading, in the order of
the input. -/
structure Collects (models : List Model) (groups : List ProviderGroup) : Prop where
  distinct : (groups.map (·.provider)).Nodup
  gathered : ∀ group ∈ groups, group.models = models.filter (·.providerKey = group.provider)
  filled : ∀ group ∈ groups, group.models ≠ []
  covered : ∀ model ∈ models, model.providerKey ∈ groups.map (·.provider)

/-- A group with a model more if it is the group of a heading. -/
def extended (key : String) (model : Model) (group : ProviderGroup) : ProviderGroup :=
  if group.provider = key then ⟨group.provider, group.models ++ [model]⟩ else group

theorem extended_provider (key : String) (model : Model) (group : ProviderGroup) :
    (extended key model group).provider = group.provider := by
  unfold extended
  split
  · rfl
  · rfl

theorem insert_of_not_mem {key : String} (model : Model) {groups : List ProviderGroup}
    (absent : key ∉ groups.map (·.provider)) :
    insert key model groups = groups ++ [⟨key, [model]⟩] := by
  induction groups with
  | nil => rfl
  | cons group groups induction =>
      rw [List.map_cons, List.mem_cons, not_or] at absent
      rw [insert, if_neg (Ne.symm absent.1), induction absent.2, List.cons_append]

theorem insert_of_mem {key : String} (model : Model) {groups : List ProviderGroup}
    (distinct : (groups.map (·.provider)).Nodup) (present : key ∈ groups.map (·.provider)) :
    insert key model groups = groups.map (extended key model) := by
  induction groups with
  | nil => cases present
  | cons group groups induction =>
      rw [List.map_cons, List.nodup_cons] at distinct
      rw [List.map_cons, insert, extended]
      by_cases same : group.provider = key
      · have others : groups.map (extended key model) = groups := by
          rw [← same]
          calc
            groups.map (extended group.provider model) = groups.map id := by
              apply List.map_congr_left
              intro other member
              have different : other.provider ≠ group.provider := by
                intro equal
                exact distinct.1 (List.mem_map.mpr ⟨other, member, equal⟩)
              exact if_neg different
            _ = groups := List.map_id groups
        rw [if_pos same, if_pos same, others]
      · rw [List.map_cons, List.mem_cons] at present
        have behind := present.resolve_left (Ne.symm same)
        rw [if_neg same, if_neg same, induction distinct.2 behind]

namespace Collects

variable {models : List Model} {groups : List ProviderGroup} {model : Model}

/-- A model of a known heading goes behind the models of its group. -/
theorem extended (collects : Collects models groups)
    (present : model.providerKey ∈ groups.map (·.provider)) :
    Collects (models ++ [model]) (groups.map (extended model.providerKey model)) := by
  have headings : (groups.map (Catalog.extended model.providerKey model)).map (·.provider) =
      groups.map (·.provider) := by
    rw [List.map_map]
    exact List.map_congr_left fun group _ => extended_provider _ model group
  refine ⟨?_, ?_, ?_, ?_⟩
  · rw [headings]
    exact collects.distinct
  · intro _ member
    obtain ⟨group, inside, rfl⟩ := List.mem_map.mp member
    rw [extended_provider, List.filter_append, ← collects.gathered group inside, Catalog.extended]
    by_cases same : group.provider = model.providerKey
    · simp [same]
    · simp [same, Ne.symm same]
  · intro _ member
    obtain ⟨group, inside, rfl⟩ := List.mem_map.mp member
    unfold Catalog.extended
    split
    · exact List.append_ne_nil_of_right_ne_nil _ (List.cons_ne_nil _ _)
    · exact collects.filled group inside
  · intro other member
    rw [headings]
    rcases List.mem_append.mp member with before | last
    · exact collects.covered other before
    · rwa [List.mem_singleton.mp last]

/-- The first model of a heading opens a group behind the others. -/
theorem opened (collects : Collects models groups)
    (absent : model.providerKey ∉ groups.map (·.provider)) :
    Collects (models ++ [model]) (groups ++ [⟨model.providerKey, [model]⟩]) := by
  refine ⟨?_, ?_, ?_, ?_⟩
  · rw [List.map_append]
    exact collects.distinct.append (List.nodup_singleton _) (List.disjoint_singleton.mpr absent)
  · intro group member
    rw [List.filter_append]
    rcases List.mem_append.mp member with before | last
    · have different : model.providerKey ≠ group.provider := by
        intro same
        exact absent (List.mem_map.mpr ⟨group, before, same.symm⟩)
      simp [collects.gathered group before, different]
    · rw [List.mem_singleton.mp last]
      have nobody : models.filter (·.providerKey = model.providerKey) = [] := by
        rw [List.filter_eq_nil_iff]
        intro other inside same
        exact absent (of_decide_eq_true same ▸ collects.covered other inside)
      simp [nobody]
  · intro group member
    rcases List.mem_append.mp member with before | last
    · exact collects.filled group before
    · rw [List.mem_singleton.mp last]
      exact List.cons_ne_nil _ _
  · intro other member
    rw [List.map_append, List.mem_append]
    rcases List.mem_append.mp member with before | last
    · exact .inl (collects.covered other before)
    · rw [List.mem_singleton.mp last]
      exact .inr List.mem_cons_self

theorem insert (collects : Collects models groups) (model : Model) :
    Collects (models ++ [model]) (insert model.providerKey model groups) := by
  by_cases present : model.providerKey ∈ groups.map (·.provider)
  · rw [insert_of_mem model collects.distinct present]
    exact collects.extended present
  · rw [insert_of_not_mem model present]
    exact collects.opened present

end Collects

theorem collects_collect (models : List Model) : Collects models (collect models) := by
  induction models using List.reverseRecOn with
  | nil =>
      refine ⟨List.nodup_nil, ?_, ?_, ?_⟩
      · exact List.forall_mem_nil _
      · exact List.forall_mem_nil _
      · exact List.forall_mem_nil _
  | append_singleton models model collects =>
      rw [collect, List.foldl_append]
      exact collects.insert model

/-! ## Arranging -/

/-- The models of one heading in listing order. -/
def under (heading : String) (models : List Model) : List Model :=
  (models.filter (·.providerKey = heading)).mergeSort modelLe

/-- Groups that are arranged for the listing of models. -/
structure Arranges (models : List Model) (groups : List ProviderGroup) : Prop where
  headings : (groups.map (·.provider)).Pairwise (headingKey · < headingKey ·)
  sorted : ∀ group ∈ groups, group.models = under group.provider models
  filled : ∀ group ∈ groups, group.models ≠ []
  covered : ∀ model ∈ models, model.providerKey ∈ groups.map (·.provider)

theorem headingKey_injective : Function.Injective headingKey := by
  intro left right same
  exact congrArg Prod.snd (toLex.injective same)

theorem arranges_group (models : List Model) : Arranges models (group models) := by
  have collects := collects_collect models
  have follows (left right : ProviderGroup) :
      headingLe left.provider right.provider = true ↔
        headingKey left.provider ≤ headingKey right.provider :=
    headingLe_iff left.provider right.provider
  have permuted := List.mergeSort_perm (collect models)
    fun left right => headingLe left.provider right.provider
  have headings : (group models).map (·.provider) =
      ((collect models).mergeSort fun left right =>
        headingLe left.provider right.provider).map (·.provider) := by
    rw [group, List.map_map]
    rfl
  -- Every group of the listing is one that was collected, with its models sorted.
  have origin : ∀ listed ∈ group models, ∃ collected ∈ collect models,
      listed = ⟨collected.provider, collected.models.mergeSort modelLe⟩ := by
    intro listed member
    obtain ⟨collected, inside, rfl⟩ := List.mem_map.mp member
    exact ⟨collected, permuted.mem_iff.mp inside, rfl⟩
  refine ⟨?_, ?_, ?_, ?_⟩
  · have distinct := (permuted.map (·.provider)).nodup_iff.mpr collects.distinct
    have ordered := pairwise_mergeSort_key follows (collect models)
    rw [headings]
    apply List.pairwise_map.mpr
    apply (ordered.and (List.pairwise_map.mp distinct)).imp
    rintro left right ⟨atMost, different⟩
    exact lt_of_le_of_ne atMost (headingKey_injective.ne different)
  · intro listed member
    obtain ⟨collected, inside, rfl⟩ := origin listed member
    exact congrArg (List.mergeSort · modelLe) (collects.gathered collected inside)
  · intro listed member
    obtain ⟨collected, inside, rfl⟩ := origin listed member
    have kept := List.mergeSort_perm collected.models modelLe
    intro empty
    dsimp only at empty
    rw [empty] at kept
    exact collects.filled collected inside kept.symm.eq_nil
  · intro model member
    rw [headings]
    exact (permuted.map (·.provider)).mem_iff.mpr (collects.covered model member)

/-! ## Sorted partitions -/

/-- Whether groups are a partition of models that is sorted, between and inside the groups. -/
structure IsSortedPartition (models : List Model) (groups : List ProviderGroup) : Prop where
  whole : (groups.flatMap (·.models)).Perm models
  filled : ∀ group ∈ groups, group.models ≠ []
  headed : ∀ group ∈ groups, ∀ model ∈ group.models, model.providerKey = group.provider
  distinct : (groups.map (·.provider)).Nodup
  headings : (groups.map (·.provider)).Pairwise (headingKey · < headingKey ·)
  ordered : ∀ group ∈ groups, group.models.Pairwise (·.listingKey ≤ ·.listingKey)
  stable : ∀ group ∈ groups, ∀ key,
    group.models.filter (·.listingKey = key) =
      models.filter fun model => model.providerKey = group.provider ∧ model.listingKey = key

/-- Models are divided up among distinct headings that cover them. -/
theorem flatMap_filter_perm {headings : List String} (distinct : headings.Nodup)
    {models : List Model} (covered : ∀ model ∈ models, model.providerKey ∈ headings) :
    (headings.flatMap fun heading => models.filter (·.providerKey = heading)).Perm models := by
  induction headings generalizing models with
  | nil =>
      cases models with
      | nil => exact .nil
      | cons model models => cases covered model List.mem_cons_self
  | cons heading headings induction =>
      rw [List.nodup_cons] at distinct
      have behind : ∀ model ∈ models.filter fun model => !decide (model.providerKey = heading),
          model.providerKey ∈ headings := by
        intro model member
        obtain ⟨inside, elsewhere⟩ := List.mem_filter.mp member
        exact (List.mem_cons.mp (covered model inside)).resolve_left (by simpa using elsewhere)
      have rest := induction distinct.2 behind
      have others : (headings.flatMap fun other =>
          (models.filter fun model => !decide (model.providerKey = heading)).filter
            (·.providerKey = other)) =
          headings.flatMap fun other => models.filter (·.providerKey = other) := by
        apply List.flatMap_congr
        intro other member
        rw [List.filter_filter]
        apply List.filter_congr
        intro model inside
        have different : other ≠ heading := by
          rintro rfl
          exact distinct.1 member
        by_cases same : model.providerKey = other
        · simp [same, different]
        · simp [same]
      rw [others] at rest
      rw [List.flatMap_cons]
      exact (rest.append_left _).trans (List.filter_append_perm _ models)

namespace Arranges

variable {models others : List Model} {groups further : List ProviderGroup}

theorem distinct (arranges : Arranges models groups) : (groups.map (·.provider)).Nodup :=
  arranges.headings.imp fun {left right} below => by
    rintro rfl
    exact lt_irrefl _ below

theorem headed (arranges : Arranges models groups) {group : ProviderGroup}
    (member : group ∈ groups) {model : Model} (inside : model ∈ group.models) :
    model.providerKey = group.provider := by
  rw [arranges.sorted group member, under, List.mem_mergeSort] at inside
  exact of_decide_eq_true (List.mem_filter.mp inside).2

theorem ordered (arranges : Arranges models groups) {group : ProviderGroup}
    (member : group ∈ groups) : group.models.Pairwise (·.listingKey ≤ ·.listingKey) := by
  rw [arranges.sorted group member]
  exact pairwise_mergeSort_key modelLe_iff _

theorem isSortedPartition (arranges : Arranges models groups) :
    IsSortedPartition models groups := by
  refine ⟨?_, arranges.filled, fun _ member _ => arranges.headed member, arranges.distinct,
    arranges.headings, fun _ => arranges.ordered, ?_⟩
  · have parts : (groups.flatMap (·.models)).Perm
        (groups.flatMap fun group => models.filter (·.providerKey = group.provider)) := by
      apply List.Perm.flatMap_left
      intro group member
      rw [arranges.sorted group member]
      exact List.mergeSort_perm _ _
    have divided := flatMap_filter_perm arranges.distinct arranges.covered
    rw [List.flatMap_map] at divided
    exact parts.trans divided
  · intro group member key
    rw [arranges.sorted group member, under, filter_mergeSort_key modelLe_iff,
      List.filter_filter]
    apply List.filter_congr
    intro model _
    rw [Bool.and_comm, Bool.decide_and]

end Arranges

/-- The listing of models is a sorted partition of them. -/
theorem group_isSortedPartition (models : List Model) :
    IsSortedPartition models (group models) :=
  (arranges_group models).isSortedPartition

/-! ## One listing for all orders -/

namespace Arranges

variable {models others : List Model} {groups further : List ProviderGroup}

theorem mem_headings (arranges : Arranges models groups) (heading : String) :
    heading ∈ groups.map (·.provider) ↔ under heading models ≠ [] := by
  constructor
  · intro member
    obtain ⟨group, inside, rfl⟩ := List.mem_map.mp member
    rw [← arranges.sorted group inside]
    exact arranges.filled group inside
  · intro filled
    obtain ⟨model, inside⟩ := List.exists_mem_of_ne_nil _ filled
    rw [under, List.mem_mergeSort, List.mem_filter] at inside
    rw [← of_decide_eq_true inside.2]
    exact arranges.covered model inside.1

theorem eq_map (arranges : Arranges models groups) :
    groups = (groups.map (·.provider)).map fun heading => ⟨heading, under heading models⟩ := by
  rw [List.map_map]
  calc
    groups = groups.map id := (List.map_id groups).symm
    _ = _ := by
      apply List.map_congr_left
      intro group member
      rw [Function.comp_apply, ← arranges.sorted group member]
      rfl

/-- There is one way to arrange groups once it is known what comes under each heading. -/
theorem unique (arranges : Arranges models groups) (other : Arranges others further)
    (same : ∀ heading, under heading models = under heading others) : groups = further := by
  have headings : groups.map (·.provider) = further.map (·.provider) := by
    have members (heading : String) :
        heading ∈ groups.map (·.provider) ↔ heading ∈ further.map (·.provider) := by
      rw [arranges.mem_headings, other.mem_headings, same]
    have permuted := (List.perm_ext_iff_of_nodup arranges.distinct other.distinct).mpr members
    apply List.Perm.eq_of_pairwise _ arranges.headings other.headings permuted
    intro left right _ _ below above
    exact absurd above (lt_asymm below)
  rw [arranges.eq_map, other.eq_map, headings]
  apply List.map_congr_left
  intro heading _
  rw [same]

/-- The models of a group are found in the listing by their heading. -/
theorem filter_flatMap {groups : List ProviderGroup}
    (distinct : (groups.map (·.provider)).Nodup)
    (headed : ∀ group ∈ groups, ∀ model ∈ group.models, model.providerKey = group.provider)
    {listed : ProviderGroup} (member : listed ∈ groups) :
    (groups.flatMap (·.models)).filter (·.providerKey = listed.provider) = listed.models := by
  induction groups with
  | nil => cases member
  | cons group groups induction =>
      rw [List.map_cons, List.nodup_cons] at distinct
      rw [List.forall_mem_cons] at headed
      rw [List.flatMap_cons, List.filter_append]
      rcases List.mem_cons.mp member with rfl | behind
      · have whole : listed.models.filter (·.providerKey = listed.provider) = listed.models := by
          rw [List.filter_eq_self]
          intro model inside
          exact decide_eq_true (headed.1 model inside)
        have others :
            (groups.flatMap (·.models)).filter (·.providerKey = listed.provider) = [] := by
          rw [List.filter_eq_nil_iff]
          intro model inside same
          obtain ⟨group, within, inside⟩ := List.mem_flatMap.mp inside
          apply distinct.1
          rw [← of_decide_eq_true same, headed.2 group within model inside]
          exact List.mem_map_of_mem within
        rw [whole, others, List.append_nil]
      · have nobody : group.models.filter (·.providerKey = listed.provider) = [] := by
          rw [List.filter_eq_nil_iff]
          intro model inside same
          apply distinct.1
          rw [← headed.1 model inside, of_decide_eq_true same]
          exact List.mem_map_of_mem behind
        rw [nobody, induction distinct.2 headed.2 behind, List.nil_append]

/-- A listing is also arranged for its own models one after the other. -/
theorem relisted (arranges : Arranges models groups) :
    Arranges (groups.flatMap (·.models)) groups := by
  have headed : ∀ group ∈ groups, ∀ model ∈ group.models, model.providerKey = group.provider :=
    fun _ member _ => arranges.headed member
  refine ⟨arranges.headings, ?_, arranges.filled, ?_⟩
  · intro group member
    have sorted := (arranges.ordered member).imp fun {left right} =>
      (modelLe_iff left right).mpr
    rw [under, filter_flatMap arranges.distinct headed member, List.mergeSort_of_pairwise sorted]
  · intro model inside
    obtain ⟨group, member, inside⟩ := List.mem_flatMap.mp inside
    rw [arranges.headed member inside]
    exact List.mem_map_of_mem member

end Arranges

theorem under_eq_of_perm {models others : List Model} (permuted : models.Perm others)
    (distinct : (models.map (·.id)).Nodup) (heading : String) :
    under heading models = under heading others := by
  apply mergeSort_eq_of_perm modelLe_iff (permuted.filter _)
  intro left leftMember right rightMember same
  have ids : left.id = right.id := congrArg (·.2.2) same
  exact List.inj_on_of_nodup_map distinct (List.mem_filter.mp leftMember).1
    (List.mem_filter.mp rightMember).1 ids

/-- The listing depends neither on the order in which models with different ids come nor on
whether models have been listed before. -/
theorem group_of_perm :
    (∀ models others : List Model, models.Perm others → (models.map (·.id)).Nodup →
        group models = group others) ∧
      ∀ models, group ((group models).flatMap (·.models)) = group models := by
  constructor
  · intro models others permuted distinct
    exact (arranges_group models).unique (arranges_group others)
      (under_eq_of_perm permuted distinct)
  · intro models
    exact (arranges_group _).unique (arranges_group models).relisted fun _ => rfl

/-- Two models whose names differ in case only, and one of no known provider. -/
theorem group_of_perm_twoNames :
    let first := { Model.ofPrices "b/2" Double.zero Double.zero with name := some "Same" }
    let second := { Model.ofPrices "B/1" Double.zero Double.zero with name := some "SAME" }
    let third := Model.ofPrices "alone" Double.zero Double.zero
    [first, second, third].Perm [third, second, first] ∧
      ([first, second, third].map (·.id)).Nodup ∧
      group [first, second, third] = [⟨"b", [second, first]⟩, ⟨otherProvider, [third]⟩] ∧
      group [third, second, first] = [⟨"b", [second, first]⟩, ⟨otherProvider, [third]⟩] := by
  intro first second third
  have permuted : [first, second, third].Perm [third, second, first] :=
    (List.reverse_perm [first, second, third]).symm
  have distinct : ([first, second, third].map (·.id)).Nodup := by decide
  -- In the order of the listing, nothing has to be moved.
  have listed : group [second, first, third] =
      [⟨"b", [second, first]⟩, ⟨otherProvider, [third]⟩] := by
    have collected : collect [second, first, third] =
        [⟨"b", [second, first]⟩, ⟨otherProvider, [third]⟩] := by
      decide +kernel
    have headings : ([⟨"b", [second, first]⟩, ⟨otherProvider, [third]⟩] :
        List ProviderGroup).Pairwise fun left right =>
          headingLe left.provider right.provider = true := by
      decide
    have names : [second, first].Pairwise fun left right => modelLe left right = true := by
      decide +kernel
    rw [group, collected, List.mergeSort_of_pairwise headings, List.map_cons, List.map_cons,
      List.map_nil, List.mergeSort_of_pairwise names, List.mergeSort_singleton]
  have swapped : [first, second, third].Perm [second, first, third] :=
    List.Perm.swap second first [third]
  refine ⟨permuted, distinct, ?_, ?_⟩
  · rw [group_of_perm.1 _ _ swapped distinct, listed]
  · rw [← group_of_perm.1 _ _ permuted distinct, group_of_perm.1 _ _ swapped distinct, listed]

end Catalog

end NodeAdmin
