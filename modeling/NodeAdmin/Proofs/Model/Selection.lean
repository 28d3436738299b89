import NodeAdmin.Proofs.Model.Listing

/-!
# The catalog of one provider

Models of one provider are picked out before they are listed.  The listing is then the group of
that provider in the listing of all models, and it is empty if there is no such group.
-/

namespace NodeAdmin.Catalog

/-- The models of one provider are picked out of those of all providers. -/
theorem select_provider (provider : String) (all : Bool) (models : List Model) :
    select (some provider) all models =
      (select none all models).filter (·.providerKey = Text.toLower provider) := by
  unfold select
  rw [List.filter_filter]
  apply List.filter_congr
  intro model _
  simp only [Option.map_some, Option.map_none, Bool.and_true]
  exact Bool.and_comm _ _

/-- Nothing changes under a heading when only the models of that heading are kept. -/
theorem under_filter (heading : String) (models : List Model) :
    under heading (models.filter (·.providerKey = heading)) = under heading models := by
  rw [under, List.filter_filter, under]
  simp only [Bool.and_self]

namespace Arranges

variable {models : List Model} {groups : List ProviderGroup}

/-- The models of one heading are arranged in its group alone. -/
theorem filter (arranges : Arranges models groups) (heading : String) :
    Arranges (models.filter (·.providerKey = heading))
      (groups.filter (·.provider = heading)) := by
  refine ⟨?_, ?_, ?_, ?_⟩
  · exact arranges.headings.sublist (List.filter_sublist.map _)
  · intro group member
    obtain ⟨inside, same⟩ := List.mem_filter.mp member
    rw [← of_decide_eq_true same, under_filter]
    exact arranges.sorted group inside
  · intro group member
    exact arranges.filled group (List.mem_filter.mp member).1
  · intro model member
    obtain ⟨inside, same⟩ := List.mem_filter.mp member
    obtain ⟨group, among, heads⟩ := List.mem_map.mp (arranges.covered model inside)
    have kept : group ∈ groups.filter (·.provider = heading) := by
      apply List.mem_filter.mpr ⟨among, _⟩
      exact decide_eq_true (heads.trans (of_decide_eq_true same))
    exact List.mem_map.mpr ⟨group, kept, heads⟩

/-- No two groups have one heading. -/
theorem filter_eq_singleton (arranges : Arranges models groups) {listed : ProviderGroup}
    (member : listed ∈ groups) : groups.filter (·.provider = listed.provider) = [listed] := by
  have distinct := arranges.distinct
  have same : ∀ group ∈ groups.filter (·.provider = listed.provider), group = listed := by
    intro group found
    obtain ⟨inside, equal⟩ := List.mem_filter.mp found
    exact List.inj_on_of_nodup_map distinct inside member (of_decide_eq_true equal)
  have once : (groups.filter (·.provider = listed.provider)).Nodup :=
    (List.Nodup.of_map _ distinct).filter _
  have kept : listed ∈ groups.filter (·.provider = listed.provider) :=
    List.mem_filter.mpr ⟨member, decide_eq_true rfl⟩
  obtain ⟨first, others, split⟩ := List.exists_cons_of_ne_nil (List.ne_nil_of_mem kept)
  rw [split] at same once ⊢
  have firstSame := same first List.mem_cons_self
  cases others with
  | nil => rw [firstSame]
  | cons second others =>
      have secondSame := same second (List.mem_cons_of_mem _ List.mem_cons_self)
      rw [firstSame, secondSame] at once
      exact absurd List.mem_cons_self (List.nodup_cons.mp once).1

end Arranges

/-- Picking out the models of one heading and listing them is to list all models and to pick
out the group of the heading. -/
theorem group_filter (heading : String) (models : List Model) :
    group (models.filter (·.providerKey = heading)) =
      (group models).filter (·.provider = heading) :=
  (arranges_group _).unique ((arranges_group models).filter heading) fun _ => rfl

/-- The listing of one provider is the group of the listing of all providers with its name in
lower case for a heading, unchanged, and without such a group it is empty. -/
theorem group_select (models : List Model) (all : Bool) (provider : String) :
    (∀ listed ∈ group (select none all models), listed.provider = Text.toLower provider →
        group (select (some provider) all models) = [listed]) ∧
      (Text.toLower provider ∉ (group (select none all models)).map (·.provider) →
        group (select (some provider) all models) = []) := by
  rw [select_provider, group_filter]
  constructor
  · intro listed member heads
    rw [← heads]
    exact (arranges_group _).filter_eq_singleton member
  · intro absent
    rw [List.filter_eq_nil_iff]
    intro group member heads
    exact absent (List.mem_map.mpr ⟨group, member, of_decide_eq_true heads⟩)

/-- A model that names its provider, one that is off and has it in front of its id, and one of
no known provider. -/
theorem group_select_openai :
    let named := { Model.ofPrices "gpt" Double.zero Double.zero with provider := some " OpenAI " }
    let off := { Model.ofPrices "OPENAI/a" Double.zero Double.zero with enabled := false }
    let stray := Model.ofPrices "alone" Double.zero Double.zero
    (∃ listed ∈ group (select none true [stray, off, named]),
      listed.provider = Text.toLower "OpenAI" ∧
        group (select (some "OpenAI") true [stray, off, named]) = [listed]) ∧
      Text.toLower "alone" ∉ (group (select none true [stray, off, named])).map (·.provider) ∧
      group (select (some "alone") true [stray, off, named]) = [] := by
  intro named off stray
  have arranges := arranges_group (select none true [stray, off, named])
  have offered : named ∈ select none true [stray, off, named] := by decide
  have labelled : named.providerKey = Text.toLower "OpenAI" := by decide +kernel
  obtain ⟨listed, member, heads⟩ := List.mem_map.mp (arranges.covered named offered)
  have absent : Text.toLower "alone" ∉
      (group (select none true [stray, off, named])).map (·.provider) := by
    have nobody : (select none true [stray, off, named]).filter
        (·.providerKey = Text.toLower "alone") = [] := by
      decide +kernel
    rw [arranges.mem_headings, under, nobody, List.mergeSort_nil]
    exact not_not_intro rfl
  refine ⟨⟨listed, member, heads.trans labelled, ?_⟩, absent, ?_⟩
  · exact (group_select [stray, off, named] true "OpenAI").1 listed member (heads.trans labelled)
  · exact (group_select [stray, off, named] true "alone").2 absent

end NodeAdmin.Catalog
