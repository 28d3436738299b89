import NodeAdmin.Proofs.Json.Values

/-!
# Slots of records

A field may keep its value in a slot that no other field reads or writes.  Its member can then be
taken out of an object and put back anywhere under any of its names with another value: the record
is read as before but for that slot.
-/

namespace NodeAdmin.Json

variable {δ α β : Type}

/-- Whether a member stands under one of some names. -/
def isNamed (names : List String) (member : Tree × Tree) : Bool :=
  member.1.keyText.toOption.any names.contains

/-- The members that stand under other names. -/
def withoutNames (names : List String) (members : List (Tree × Tree)) : List (Tree × Tree) :=
  members.filter fun member => !isNamed names member

theorem isNamed_of_keyText {names : List String} {member : Tree × Tree} {name : String}
    (text : member.1.keyText = .ok name) : isNamed names member = names.contains name := by
  rw [isNamed, text]
  rfl

/-- A slot is filled with the value that its decoder finds. -/
theorem slot_fill_ok {keys : List String} {get : δ → Option β} {put : β → δ → δ}
    {decoder : Decoder β} {site : Site} {tree : Tree} {draft next : δ}
    (filled : (RecordField.slot keys get put decoder).fill site tree draft = .ok next) :
    ∃ value, decoder site tree = .ok value ∧ next = put value draft := by
  simp only [RecordField.slot] at filled
  cases read : decoder site tree with
  | error fault =>
      rw [read] at filled
      cases filled
  | ok value =>
      rw [read] at filled
      exact ⟨value, rfl, (Except.ok.inj filled).symm⟩

/-- A value of any kind is read and interpreted, and null without being read. -/
theorem decode_optional_json {interpret : Json → Option β} (ofNull : interpret .null = none)
    {site : Site} {tree : Tree} {value : Json} (read : tree.toJson site.level = .ok value) :
    ((Decode.optional Decode.json site tree).map fun found => found.bind interpret) =
      .ok (interpret value) := by
  cases tree with
  | null =>
      cases read
      rw [ofNull]
      rfl
  | _ =>
      unfold Decode.optional Decode.json
      dsimp only
      rw [read]
      rfl

/-- A member under another name belongs to another field. -/
theorem keys_ne_of_find? {fields : List (RecordField δ)} {name : String}
    (other : names.contains name = false) {field : RecordField δ}
    (found : fields.find? (·.keys.contains name) = some field) : field.keys ≠ names := by
  intro same
  have named := List.find?_some found
  rw [same, other] at named
  cases named

/-- Whether a field is filled and read alike before and after a change of the draft. -/
structure RecordField.Ignores (field : RecordField δ) (change : δ → δ) : Prop where
  filled : ∀ draft, field.filled (change draft) = field.filled draft
  fill : ∀ site tree draft,
    field.fill site tree (change draft) = (field.fill site tree draft).map change

theorem RecordField.slot_ignores {keys : List String} {get : δ → Option β} {put : β → δ → δ}
    {decoder : Decoder β} {change : δ → δ} (unread : ∀ draft, get (change draft) = get draft)
    (unwritten : ∀ value draft, put value (change draft) = change (put value draft)) :
    (RecordField.slot keys get put decoder).Ignores change := by
  constructor
  · intro draft
    simp only [RecordField.slot, unread]
  · intro site tree draft
    simp only [RecordField.slot, unwritten]
    cases decoder site tree with
    | error fault => rfl
    | ok value => rfl

namespace RecordShape

/-- Whether a slot of the draft belongs to the field of some names, and to no other field. -/
structure HasSlot (shape : RecordShape δ α) (names : List String) (get : δ → Option β)
    (set : Option β → δ → δ) (decoder : Decoder β) : Prop where
  known : ∀ name ∈ names, shape.fields.find? (·.keys.contains name) =
    some (.slot names get (fun value => set (some value)) decoder)
  others : ∀ field ∈ shape.fields, field.keys ≠ names → ∀ slot, field.Ignores (set slot)
  get_set : ∀ slot draft, get (set slot draft) = slot
  set_set : ∀ slot earlier draft, set slot (set earlier draft) = set slot draft
  free : set none shape.empty = shape.empty

section Members

variable {shape : RecordShape δ α} {site : Site}

theorem fillMembers_append (front back : List (Tree × Tree)) (draft : δ) :
    shape.fillMembers site (front ++ back) draft =
      (shape.fillMembers site front draft).bind (shape.fillMembers site back) := by
  induction front generalizing draft with
  | nil => rfl
  | cons member front induction =>
      obtain ⟨key, value⟩ := member
      rw [List.cons_append, fillMembers, fillMembers]
      cases key.keyText with
      | error fault => rfl
      | ok name =>
          simp only [bind, Except.bind]
          cases shape.fields.find? (·.keys.contains name) with
          | none =>
              dsimp only
              cases value.pass with
              | error fault => rfl
              | ok passed => exact induction draft
          | some field =>
              dsimp only
              split
              · rfl
              · cases field.fill site value draft with
                | error fault => rfl
                | ok next => exact induction next

end Members

namespace HasSlot

variable {shape : RecordShape δ α} {names : List String} {get : δ → Option β}
  {set : Option β → δ → δ} {decoder : Decoder β} {site : Site} {draft filled : δ}

/-- Members under other names are read alike whatever the slot holds. -/
theorem fillMembers_set (slot : shape.HasSlot names get set decoder)
    {members : List (Tree × Tree)} (others : ∀ member ∈ members, isNamed names member = false)
    (held : Option β) (draft : δ) :
    shape.fillMembers site members (set held draft) =
      (shape.fillMembers site members draft).map (set held) := by
  induction members generalizing draft with
  | nil => rfl
  | cons member members induction =>
      obtain ⟨key, value⟩ := member
      obtain ⟨own, others⟩ := List.forall_mem_cons.mp others
      rw [fillMembers, fillMembers]
      cases text : key.keyText with
      | error fault => rfl
      | ok name =>
          rw [isNamed_of_keyText text] at own
          simp only [bind, Except.bind]
          cases found : shape.fields.find? (·.keys.contains name) with
          | none =>
              dsimp only
              cases value.pass with
              | error fault => rfl
              | ok passed => exact induction others draft
          | some field =>
              have ignores := slot.others field (List.mem_of_find?_eq_some found)
                (keys_ne_of_find? own found) held
              dsimp only
              rw [ignores.filled, ignores.fill]
              split
              · rfl
              · cases field.fill site value draft with
                | error fault => rfl
                | ok next => exact induction others next

/-- The member of the slot fills it. -/
theorem fillMembers_own (slot : shape.HasSlot names get set decoder) {name : String}
    (named : name ∈ names) {tree : Tree} {value : β} (read : decoder site tree = .ok value)
    (free : get draft = none) (back : List (Tree × Tree)) :
    shape.fillMembers site ((.string (.ok name), tree) :: back) draft =
      shape.fillMembers site back (set (some value) draft) := by
  rw [fillMembers, Tree.keyText]
  simp only [bind, Except.bind, slot.known name named, RecordField.slot, free, Option.isSome_none,
    read, Except.map, Bool.false_eq_true, if_false]

/-- Reading the member of the slot changes nothing else. -/
theorem set_of_fillMembers_own (slot : shape.HasSlot names get set decoder)
    {member : Tree × Tree} (own : isNamed names member = true)
    (fills : shape.fillMembers site [member] draft = .ok filled) (held : Option β) :
    set held filled = set held draft := by
  obtain ⟨name, text, read⟩ := bind_eq_ok_iff.mp fills
  rw [isNamed_of_keyText text, List.contains_iff_mem] at own
  simp only [slot.known name own] at read
  split at read
  · cases read
  · obtain ⟨next, fill, same⟩ := bind_eq_ok_iff.mp read
    cases same
    obtain ⟨value, -, rfl⟩ := slot_fill_ok fill
    exact slot.set_set held (some value) draft

/-- The member of the slot left out of members that may have it. -/
theorem fillMembers_without (slot : shape.HasSlot names get set decoder)
    {members : List (Tree × Tree)} (fills : shape.fillMembers site members draft = .ok filled) :
    shape.fillMembers site (withoutNames names members) (set none draft) =
      .ok (set none filled) := by
  induction members generalizing draft with
  | nil =>
      cases fills
      rfl
  | cons member members induction =>
      rw [← List.singleton_append, fillMembers_append] at fills
      obtain ⟨next, fillsOwn, fillsOthers⟩ := bind_eq_ok_iff.mp fills
      have others := induction fillsOthers
      unfold withoutNames at others ⊢
      cases own : isNamed names member with
      | true =>
          rw [List.filter_cons_of_neg (by simp [own]),
            ← slot.set_of_fillMembers_own own fillsOwn]
          exact others
      | false =>
          have ownOnly : ∀ single ∈ [member], isNamed names single = false :=
            List.forall_mem_singleton.mpr own
          rw [List.filter_cons_of_pos (by simp [own]), ← List.singleton_append,
            fillMembers_append, slot.fillMembers_set ownOnly, fillsOwn]
          exact others

/-- A member of the slot among members that have none. -/
theorem fillMembers_insert (slot : shape.HasSlot names get set decoder)
    {front back : List (Tree × Tree)}
    (others : ∀ member ∈ front ++ back, isNamed names member = false) {name : String}
    (named : name ∈ names) {tree : Tree} {value : β} (read : decoder site tree = .ok value)
    (fills : shape.fillMembers site (front ++ back) (set none draft) = .ok filled) :
    shape.fillMembers site (front ++ (.string (.ok name), tree) :: back) (set none draft) =
      .ok (set (some value) filled) := by
  obtain ⟨fronts, backs⟩ := List.forall_mem_append.mp others
  rw [fillMembers_append] at fills ⊢
  obtain ⟨next, fillsFront, fillsBack⟩ := bind_eq_ok_iff.mp fills
  have stillFree : get next = none := by
    -- What the front fills is what it fills from a slot set free twice.
    have again : shape.fillMembers site front (set none (set none draft)) = _ :=
      slot.fillMembers_set fronts none (set none draft)
    rw [slot.set_set, fillsFront] at again
    rw [Except.ok.inj again]
    exact slot.get_set none next
  rw [fillsFront]
  change shape.fillMembers site ((.string (.ok name), tree) :: back) next = _
  rw [slot.fillMembers_own named read stillFree, slot.fillMembers_set backs, fillsBack]
  rfl

/-- An object is read with any value in the slot, and to the same draft but for the slot. -/
theorem decode_object (slot : shape.HasSlot names get set decoder)
    {members : List (Tree × Tree)} {record : α}
    (read : shape.decode site (.object members none) = .ok record) :
    ∃ filled, shape.finish filled = some record ∧
      ∀ front back name tree value, front ++ back = withoutNames names members →
        name ∈ names → decoder site.inner tree = .ok value →
          shape.decode site (.object (front ++ (.string (.ok name), tree) :: back) none) =
            shape.finished (set (some value) filled) := by
  rw [decode] at read
  split at read
  · cases read
  · rename_i shallow
    obtain ⟨filled, fills, read⟩ := bind_eq_ok_iff.mp read
    obtain ⟨_, -, finished⟩ := bind_eq_ok_iff.mp read
    refine ⟨filled, ?_, ?_⟩
    · rw [RecordShape.finished] at finished
      split at finished
      · rename_i value finish
        rw [finish, Except.ok.inj finished]
      · cases finished
    · intro front back name tree value split named readOwn
      have fillsWithout := slot.fillMembers_without fills
      rw [← split] at fillsWithout
      have others : ∀ member ∈ front ++ back, isNamed names member = false := by
        intro member inside
        rw [split] at inside
        simpa using List.of_mem_filter inside
      have fillsAll := slot.fillMembers_insert others named readOwn fillsWithout
      rw [slot.free, slot.set_set] at fillsAll
      rw [decode, if_neg shallow, fillsAll]
      rfl

end HasSlot

end RecordShape

end NodeAdmin.Json
