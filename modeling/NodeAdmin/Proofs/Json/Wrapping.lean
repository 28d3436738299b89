import Mathlib.Data.List.Forall2
import NodeAdmin.Json.Decode
import NodeAdmin.Proofs.Json.Values

/-!
# Lists, bare and wrapped

A list can stand alone in a document or be the one member of a key among others.  What is read
from it depends on its items only: nothing else in the document has a say, once the document is one
that can be read at all.
-/

namespace NodeAdmin.Json

/-! ## Values below fewer containers -/

namespace Tree

/-- Whether a tree has a value below so many open containers. -/
def HasValue (level : Nat) (tree : Tree) : Prop := ∃ value, tree.toJson level = .ok value

mutual

/-- What is read below many containers is read below fewer. -/
theorem toJson_of_le {level less : Nat} (fewer : less ≤ level) (tree : Tree) {value : Json}
    (read : tree.toJson level = .ok value) : tree.toJson less = .ok value := by
  match tree with
  | null => exact read
  | bool _ => exact read
  | number _ => exact read
  | string _ => exact read
  | broken _ _ => exact read
  | array items close =>
      rw [toJson] at read ⊢
      split at read
      · cases read
      · rename_i shallow
        obtain ⟨values, readItems, others⟩ := bind_eq_ok_iff.mp read
        rw [if_neg (by omega), itemsToJson_of_le (Nat.add_le_add_right fewer 1) items readItems]
        exact others
  | object members close =>
      rw [toJson] at read ⊢
      split at read
      · cases read
      · rename_i shallow
        obtain ⟨values, readMembers, others⟩ := bind_eq_ok_iff.mp read
        rw [if_neg (by omega),
          membersToJson_of_le (Nat.add_le_add_right fewer 1) members readMembers]
        exact others

theorem itemsToJson_of_le {level less : Nat} (fewer : less ≤ level) (items : List Tree)
    {values : List Json} (read : itemsToJson level items = .ok values) :
    itemsToJson less items = .ok values := by
  match items with
  | [] => exact read
  | item :: items =>
      rw [itemsToJson] at read ⊢
      obtain ⟨value, readItem, others⟩ := bind_eq_ok_iff.mp read
      obtain ⟨rest, readItems, same⟩ := bind_eq_ok_iff.mp others
      rw [toJson_of_le fewer item readItem, itemsToJson_of_le fewer items readItems]
      exact same

theorem membersToJson_of_le {level less : Nat} (fewer : less ≤ level)
    (members : List (Tree × Tree)) {values : List (String × Json)}
    (read : membersToJson level members = .ok values) :
    membersToJson less members = .ok values := by
  match members with
  | [] => exact read
  | (key, item) :: members =>
      rw [membersToJson] at read ⊢
      obtain ⟨name, isName, others⟩ := bind_eq_ok_iff.mp read
      obtain ⟨value, readItem, others⟩ := bind_eq_ok_iff.mp others
      obtain ⟨rest, readMembers, same⟩ := bind_eq_ok_iff.mp others
      rw [isName, toJson_of_le fewer item readItem,
        membersToJson_of_le fewer members readMembers]
      exact same

end

variable {level : Nat}

theorem itemsToJson_ok_iff {items : List Tree} :
    (∃ values, itemsToJson level items = .ok values) ↔
      ∀ item ∈ items, item.HasValue level := by
  induction items with
  | nil => simp [itemsToJson]
  | cons item items induction =>
      rw [List.forall_mem_cons, ← induction]
      constructor
      · rintro ⟨values, read⟩
        obtain ⟨value, readItem, others⟩ := bind_eq_ok_iff.mp read
        obtain ⟨rest, readItems, -⟩ := bind_eq_ok_iff.mp others
        exact ⟨⟨value, readItem⟩, rest, readItems⟩
      · rintro ⟨⟨value, readItem⟩, rest, readItems⟩
        refine ⟨value :: rest, ?_⟩
        rw [itemsToJson, readItem, readItems]
        rfl

theorem membersToJson_ok_iff {members : List (Tree × Tree)} :
    (∃ values, membersToJson level members = .ok values) ↔
      ∀ member ∈ members, (∃ name, member.1.keyText = .ok name) ∧ member.2.HasValue level := by
  induction members with
  | nil => simp [membersToJson]
  | cons member members induction =>
      obtain ⟨key, item⟩ := member
      rw [List.forall_mem_cons, ← induction]
      constructor
      · rintro ⟨values, read⟩
        obtain ⟨name, isName, others⟩ := bind_eq_ok_iff.mp read
        obtain ⟨value, readItem, others⟩ := bind_eq_ok_iff.mp others
        obtain ⟨rest, readMembers, -⟩ := bind_eq_ok_iff.mp others
        exact ⟨⟨⟨name, isName⟩, value, readItem⟩, rest, readMembers⟩
      · rintro ⟨⟨⟨name, isName⟩, value, readItem⟩, rest, readMembers⟩
        refine ⟨(name, value) :: rest, ?_⟩
        rw [membersToJson, isName, readItem, readMembers]
        rfl

theorem hasValue_array_iff {items : List Tree} {close : Option Fault} :
    (array items close).HasValue level ↔
      level + 1 < depthLimit ∧ (∀ item ∈ items, item.HasValue (level + 1)) ∧ close = none := by
  rw [← itemsToJson_ok_iff]
  constructor
  · rintro ⟨value, read⟩
    rw [toJson] at read
    split at read
    · cases read
    · rename_i shallow
      obtain ⟨values, readItems, others⟩ := bind_eq_ok_iff.mp read
      obtain ⟨_, closed, -⟩ := bind_eq_ok_iff.mp others
      refine ⟨Nat.not_le.mp shallow, ⟨values, readItems⟩, ?_⟩
      cases close with
      | none => rfl
      | some fault => cases closed
  · rintro ⟨shallow, ⟨values, readItems⟩, rfl⟩
    refine ⟨.array values, ?_⟩
    rw [toJson, if_neg (Nat.not_le.mpr shallow), readItems]
    rfl

theorem hasValue_object_iff {members : List (Tree × Tree)} {close : Option Fault} :
    (object members close).HasValue level ↔
      level + 1 < depthLimit ∧
        (∀ member ∈ members,
          (∃ name, member.1.keyText = .ok name) ∧ member.2.HasValue (level + 1)) ∧
        close = none := by
  rw [← membersToJson_ok_iff]
  constructor
  · rintro ⟨value, read⟩
    rw [toJson] at read
    split at read
    · cases read
    · rename_i shallow
      obtain ⟨values, readMembers, others⟩ := bind_eq_ok_iff.mp read
      obtain ⟨_, closed, -⟩ := bind_eq_ok_iff.mp others
      refine ⟨Nat.not_le.mp shallow, ⟨values, readMembers⟩, ?_⟩
      cases close with
      | none => rfl
      | some fault => cases closed
  · rintro ⟨shallow, ⟨values, readMembers⟩, rfl⟩
    refine ⟨.object (sortMembers values), ?_⟩
    rw [toJson, if_neg (Nat.not_le.mpr shallow), readMembers]
    rfl

theorem HasValue.of_le {less : Nat} {tree : Tree} (held : tree.HasValue level)
    (fewer : less ≤ level) : tree.HasValue less := by
  obtain ⟨value, read⟩ := held
  exact ⟨value, toJson_of_le fewer tree read⟩

/-- Only a string is a key. -/
theorem keyText_eq_ok_iff {tree : Tree} {name : String} :
    tree.keyText = .ok name ↔ tree = .string (.ok name) := by
  cases tree <;> simp [keyText]

end Tree

/-! ## Items -/

section Items

variable {α : Type} {decoder : Decoder α} {site : Site}

/-- Items are read one by one, in order. -/
theorem items_eq_ok_iff {items : List Tree} {values : List α} :
    Decode.items decoder site items = .ok values ↔
      List.Forall₂ (fun item value => decoder site item = .ok value) items values := by
  induction items generalizing values with
  | nil =>
      rw [Decode.items, List.forall₂_nil_left_iff]
      exact ⟨fun same => (Except.ok.inj same).symm, fun same => congrArg Except.ok same.symm⟩
  | cons item items induction =>
      constructor
      · intro read
        obtain ⟨value, readItem, others⟩ := bind_eq_ok_iff.mp read
        obtain ⟨rest, readItems, same⟩ := bind_eq_ok_iff.mp others
        cases same
        exact .cons readItem (induction.mp readItems)
      · intro each
        cases each with
        | cons readItem others =>
            rw [Decode.items, readItem, induction.mpr others]
            rfl

/-- Items fail to be read just when one of them does. -/
theorem items_eq_error_iff {items : List Tree} :
    (∃ fault, Decode.items decoder site items = .error fault) ↔
      ∃ item ∈ items, ∀ value, decoder site item ≠ .ok value := by
  induction items with
  | nil => simp [Decode.items]
  | cons item items induction =>
      rw [List.exists_mem_cons_iff, ← induction, Decode.items]
      cases decoder site item with
      | error fault => simp [bind, Except.bind]
      | ok value => cases Decode.items decoder site items <;> simp [bind, Except.bind]

/-- An item that is read has its place among the items, and another one can take that place. -/
theorem exists_item_of_items {items : List Tree} {earlier later : List α} {value : α}
    (read : Decode.items decoder site items = .ok (earlier ++ value :: later)) :
    ∃ before item after, items = before ++ item :: after ∧ before.length = earlier.length ∧
      decoder site item = .ok value ∧
      ∀ other otherValue, decoder site other = .ok otherValue →
        Decode.items decoder site (before ++ other :: after) =
          .ok (earlier ++ otherValue :: later) := by
  simp only [items_eq_ok_iff] at read ⊢
  induction earlier generalizing items with
  | nil =>
      obtain ⟨item, after, readItem, others, rfl⟩ := List.forall₂_cons_right_iff.mp read
      refine ⟨[], item, after, rfl, rfl, readItem, ?_⟩
      intro other otherValue readOther
      exact .cons readOther others
  | cons first earlier induction =>
      obtain ⟨head, rest, readHead, others, rfl⟩ := List.forall₂_cons_right_iff.mp read
      obtain ⟨before, item, after, rfl, place, readItem, replaced⟩ := induction others
      refine ⟨head :: before, item, after, rfl, congrArg Nat.succ place, readItem, ?_⟩
      intro other otherValue readOther
      exact .cons readHead (replaced other otherValue readOther)

/-- An item has its value in its place, and another one can take that place. -/
theorem exists_value_of_items {before after : List Tree} {item : Tree} {values : List α}
    (read : Decode.items decoder site (before ++ item :: after) = .ok values) :
    ∃ earlier value later, values = earlier ++ value :: later ∧
      earlier.length = before.length ∧ decoder site item = .ok value ∧
      ∀ other otherValue, decoder site other = .ok otherValue →
        Decode.items decoder site (before ++ other :: after) =
          .ok (earlier ++ otherValue :: later) := by
  simp only [items_eq_ok_iff] at read ⊢
  induction before generalizing values with
  | nil =>
      obtain ⟨value, later, readItem, others, rfl⟩ := List.forall₂_cons_left_iff.mp read
      refine ⟨[], value, later, rfl, rfl, readItem, ?_⟩
      intro other otherValue readOther
      exact .cons readOther others
  | cons first before induction =>
      obtain ⟨head, rest, readHead, others, rfl⟩ := List.forall₂_cons_left_iff.mp read
      obtain ⟨earlier, value, later, rfl, place, readItem, replaced⟩ := induction others
      refine ⟨head :: earlier, value, later, rfl, congrArg Nat.succ place, readItem, ?_⟩
      intro other otherValue readOther
      exact .cons readHead (replaced other otherValue readOther)

end Items

/-! ## Wrappings -/

/-- The place of a list in a document: it stands alone, or it is the one member of a key. -/
inductive Wrapping (key : String) where
  | bare
  | member (front back : List (Tree × Tree))
      (others : ∀ member ∈ front ++ back, member.1.keyText ≠ .ok key)

namespace Wrapping

variable {α : Type} {key : String} {decoder : Decoder α} {site : Site}

/-- The document with a list in a place. -/
def tree : Wrapping key → List Tree → Tree
  | bare, items => .array items none
  | member front back _, items =>
      .object (front ++ (.string (.ok key), .array items none) :: back) none

/-- How many containers stand around the list. -/
def depth : Wrapping key → Nat
  | bare => 0
  | member _ _ _ => 1

theorem wrapped?_bare (items : List Tree) :
    wrapped? key ((bare : Wrapping key).tree items) = none := rfl

theorem wrapped?_member {front back : List (Tree × Tree)}
    (others : ∀ member ∈ front ++ back, member.1.keyText ≠ .ok key) (items : List Tree) :
    wrapped? key ((member front back others).tree items) = some (.array items none) := by
  have passed : ∀ member ∈ front ++ back,
      ¬ (member.1.keyText.toOption == some key) = true := by
    intro member inside named
    apply others member inside
    cases text : member.1.keyText with
    | error fault => simp [text, Except.toOption] at named
    | ok name =>
        simp only [text, Except.toOption, beq_iff_eq, Option.some.injEq] at named
        rw [named]
  obtain ⟨passedFront, passedBack⟩ := List.forall_mem_append.mp passed
  have own : ((Tree.string (.ok key)).keyText.toOption == some key) = true := by
    simp [Tree.keyText, Except.toOption]
  rw [tree, wrapped?, List.filter_append, List.filter_eq_nil_iff.mpr passedFront,
    List.filter_cons, if_pos own, List.filter_eq_nil_iff.mpr passedBack]
  rfl

theorem hasValue_tree_iff {wrapping : Wrapping key} {items : List Tree} {level : Nat} :
    (wrapping.tree items).HasValue level ↔
      (wrapping.tree []).HasValue level ∧ level + wrapping.depth + 1 < depthLimit ∧
        ∀ item ∈ items, item.HasValue (level + wrapping.depth + 1) := by
  cases wrapping with
  | bare =>
      simp only [tree, depth, Tree.hasValue_array_iff, Nat.add_zero]
      tauto
  | member front back others =>
      simp only [tree, depth, Tree.hasValue_object_iff, List.forall_mem_append,
        List.forall_mem_cons, Tree.hasValue_array_iff]
      tauto

theorem hasValue_tree_replace {wrapping : Wrapping key} {before after : List Tree}
    {item other : Tree} {level : Nat}
    (held : (wrapping.tree (before ++ item :: after)).HasValue level)
    (otherHeld : other.HasValue (level + wrapping.depth + 1)) :
    (wrapping.tree (before ++ other :: after)).HasValue level := by
  obtain ⟨empty, shallow, each⟩ := hasValue_tree_iff.mp held
  refine hasValue_tree_iff.mpr ⟨empty, shallow, ?_⟩
  simp only [List.forall_mem_append, List.forall_mem_cons] at each ⊢
  exact ⟨each.1, otherHeld, each.2.2⟩

/-- What stands alone is read wherever it is read wrapped. -/
theorem hasValue_bare {wrapping : Wrapping key} {items : List Tree} {level : Nat}
    (held : (wrapping.tree items).HasValue level) :
    ((bare : Wrapping key).tree items).HasValue level := by
  obtain ⟨-, shallow, each⟩ := hasValue_tree_iff.mp held
  refine Tree.hasValue_array_iff.mpr ⟨by omega, ?_, rfl⟩
  intro item inside
  exact (each item inside).of_le (by omega)

/-- A list is read as its items are, whatever stands around it. -/
theorem listOrWrapped_tree (wrapping : Wrapping key) {items : List Tree}
    (held : (wrapping.tree items).HasValue site.level) :
    listOrWrapped key decoder site (wrapping.tree items) =
      (Decode.items decoder ⟨site.level + 1, .mismatched⟩ items).mapError
        fun _ => .mismatched := by
  obtain ⟨-, shallow, -⟩ := hasValue_tree_iff.mp held
  have list : (Decode.list decoder ⟨site.level, .mismatched⟩ (.array items none)).mapError
      (fun _ => Fault.mismatched) =
        (Decode.items decoder ⟨site.level + 1, .mismatched⟩ items).mapError
          fun _ => .mismatched := by
    rw [Decode.list, if_neg (by dsimp only; omega)]
    simp only [Site.inner]
    cases Decode.items decoder ⟨site.level + 1, .mismatched⟩ items with
    | error fault => rfl
    | ok values => rfl
  obtain ⟨value, read⟩ := held
  unfold listOrWrapped
  rw [read]
  simp only [bind, Except.bind]
  cases wrapping with
  | bare =>
      rw [wrapped?_bare]
      exact list
  | member front back others =>
      rw [wrapped?_member]
      exact list

/-- Every document that is read as a list has one in some place. -/
theorem exists_of_listOrWrapped {document : Tree} {values : List α}
    (read : listOrWrapped key decoder site document = .ok values) :
    ∃ (wrapping : Wrapping key) (items : List Tree), document = wrapping.tree items ∧
      document.HasValue site.level := by
  obtain ⟨value, readDocument, found⟩ := bind_eq_ok_iff.mp read
  have held : document.HasValue site.level := ⟨value, readDocument⟩
  have list {tree : Tree} (readList : (Decode.list decoder ⟨site.level, .mismatched⟩ tree).mapError
      (fun _ => Fault.mismatched) = .ok values) : ∃ items, tree = .array items none := by
    cases tree with
    | array items close =>
        cases close with
        | none => exact ⟨items, rfl⟩
        | some fault =>
            unfold Decode.list at readList
            dsimp only at readList
            split at readList
            · cases readList
            · cases items : Decode.items decoder (Site.inner ⟨site.level, .mismatched⟩) items <;>
                simp [items, Tree.closed, bind, Except.bind, Except.mapError] at readList
    | _ => cases readList
  cases wrapped : wrapped? key document with
  | none =>
      simp only [wrapped] at found
      obtain ⟨items, rfl⟩ := list found
      exact ⟨.bare, items, rfl, held⟩
  | some tree =>
      simp only [wrapped] at found
      obtain ⟨items, rfl⟩ := list found
      unfold wrapped? at wrapped
      split at wrapped
      · rename_i members close
        split at wrapped
        · rename_i name value only
          cases wrapped
          obtain ⟨front, back, rfl, before, isKey, after⟩ := List.filter_eq_cons_iff.mp only
          obtain ⟨-, keys, rfl⟩ := Tree.hasValue_object_iff.mp held
          have others : ∀ member ∈ front ++ back, member.1.keyText ≠ .ok key := by
            intro member inside isKey
            have passed : ¬ (member.1.keyText.toOption == some key) = true := by
              rcases List.mem_append.mp inside with early | late
              · exact before member early
              · exact List.filter_eq_nil_iff.mp after member late
            apply passed
            simp [isKey, Except.toOption]
          obtain ⟨text, isText⟩ := (keys (name, .array items none) (by simp)).1
          simp only [isText, Except.toOption, beq_iff_eq, Option.some.injEq] at isKey
          subst isKey
          obtain rfl := Tree.keyText_eq_ok_iff.mp isText
          exact ⟨.member front back others, items, rfl, held⟩
        · cases wrapped
      · cases wrapped

/-- An item of a list that is read can be replaced wherever the list stands. -/
theorem exists_item_of_listOrWrapped {document : Tree} {earlier later : List α} {value : α}
    (read : listOrWrapped key decoder site document = .ok (earlier ++ value :: later)) :
    ∃ (wrapping : Wrapping key) (before : List Tree) (item : Tree) (after : List Tree),
      document = wrapping.tree (before ++ item :: after) ∧ before.length = earlier.length ∧
      item.HasValue (site.level + wrapping.depth + 1) ∧
      decoder ⟨site.level + 1, .mismatched⟩ item = .ok value ∧
      ∀ other otherValue, other.HasValue (site.level + wrapping.depth + 1) →
        decoder ⟨site.level + 1, .mismatched⟩ other = .ok otherValue →
          listOrWrapped key decoder site (wrapping.tree (before ++ other :: after)) =
            .ok (earlier ++ otherValue :: later) := by
  obtain ⟨wrapping, items, rfl, held⟩ := exists_of_listOrWrapped read
  rw [wrapping.listOrWrapped_tree held] at read
  cases readItems : Decode.items decoder ⟨site.level + 1, .mismatched⟩ items with
  | error fault =>
      rw [readItems] at read
      cases read
  | ok values =>
      rw [readItems] at read
      obtain rfl : values = earlier ++ value :: later := Except.ok.inj read
      obtain ⟨before, item, after, rfl, place, readItem, replaced⟩ :=
        exists_item_of_items readItems
      obtain ⟨-, -, each⟩ := hasValue_tree_iff.mp held
      refine ⟨wrapping, before, item, after, rfl, place, each item (by simp), readItem, ?_⟩
      intro other otherValue otherHeld readOther
      rw [wrapping.listOrWrapped_tree (hasValue_tree_replace held otherHeld),
        replaced other otherValue readOther]
      rfl

/-- An item of a list in some place has its value there, and another one can take its place. -/
theorem exists_value_of_listOrWrapped (wrapping : Wrapping key) {before after : List Tree}
    {item : Tree} {values : List α}
    (read : listOrWrapped key decoder site (wrapping.tree (before ++ item :: after)) =
      .ok values) :
    ∃ earlier value later, values = earlier ++ value :: later ∧
      earlier.length = before.length ∧ item.HasValue (site.level + wrapping.depth + 1) ∧
      decoder ⟨site.level + 1, .mismatched⟩ item = .ok value ∧
      ∀ other otherValue, other.HasValue (site.level + wrapping.depth + 1) →
        decoder ⟨site.level + 1, .mismatched⟩ other = .ok otherValue →
          listOrWrapped key decoder site (wrapping.tree (before ++ other :: after)) =
            .ok (earlier ++ otherValue :: later) := by
  obtain ⟨document, readDocument, -⟩ := bind_eq_ok_iff.mp read
  have held : (wrapping.tree (before ++ item :: after)).HasValue site.level :=
    ⟨document, readDocument⟩
  rw [wrapping.listOrWrapped_tree held] at read
  cases readItems :
      Decode.items decoder ⟨site.level + 1, .mismatched⟩ (before ++ item :: after) with
  | error fault =>
      rw [readItems] at read
      cases read
  | ok found =>
      rw [readItems] at read
      obtain rfl : found = values := Except.ok.inj read
      obtain ⟨earlier, value, later, rfl, place, readItem, replaced⟩ :=
        exists_value_of_items readItems
      obtain ⟨-, -, each⟩ := hasValue_tree_iff.mp held
      refine ⟨earlier, value, later, rfl, place, each item (by simp), readItem, ?_⟩
      intro other otherValue otherHeld readOther
      rw [wrapping.listOrWrapped_tree (hasValue_tree_replace held otherHeld),
        replaced other otherValue readOther]
      rfl

end Wrapping

end NodeAdmin.Json
