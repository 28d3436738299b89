import Mathlib.Data.String.Basic
import NodeAdmin.Json.Basic

/-!
# Members sorted by key

Lists of members in strictly increasing order of their keys, each key once.  Putting a member
into such a list replaces the earlier member of its key and keeps all others, and sorting leaves
the list as it is.
-/

namespace NodeAdmin.Json

variable {α : Type}

/-- Whether the keys of members increase strictly. -/
def SortedByKey (members : List (String × α)) : Prop :=
  members.Pairwise fun first second => first.1 < second.1

theorem mem_putMember_iff {members : List (String × α)} (sorted : SortedByKey members)
    {key : String} {value : α} {member : String × α} :
    member ∈ putMember key value members ↔
      member = (key, value) ∨ member.1 ≠ key ∧ member ∈ members := by
  induction members with
  | nil => simp [putMember]
  | cons first rest induction =>
      obtain ⟨above, restSorted⟩ := List.pairwise_cons.mp sorted
      have others : key ≤ first.1 → ∀ other ∈ rest, other.1 ≠ key := by
        intro atMost other inside same
        have later := above other inside
        rw [same] at later
        exact absurd atMost (not_le.mpr later)
      rw [putMember]
      split
      · rename_i same
        subst same
        simp only [List.mem_cons]
        constructor
        · rintro (rfl | inside)
          · exact .inl rfl
          · exact .inr ⟨others (le_refl _) member inside, .inr inside⟩
        · rintro (rfl | ⟨differs, rfl | inside⟩)
          · exact .inl rfl
          · exact absurd rfl differs
          · exact .inr inside
      · rename_i differs
        split
        · rename_i before
          simp only [List.mem_cons]
          constructor
          · rintro (rfl | rfl | inside)
            · exact .inl rfl
            · exact .inr ⟨Ne.symm differs, .inl rfl⟩
            · exact .inr ⟨others (le_of_lt before) member inside, .inr inside⟩
          · rintro (rfl | ⟨-, present⟩)
            · exact .inl rfl
            · exact .inr present
        · simp only [List.mem_cons, induction restSorted]
          constructor
          · rintro (rfl | rfl | ⟨differs, inside⟩)
            · exact .inr ⟨Ne.symm differs, .inl rfl⟩
            · exact .inl rfl
            · exact .inr ⟨differs, .inr inside⟩
          · rintro (rfl | ⟨differs, rfl | inside⟩)
            · exact .inr (.inl rfl)
            · exact .inl rfl
            · exact .inr (.inr ⟨differs, inside⟩)

theorem SortedByKey.putMember {members : List (String × α)} (sorted : SortedByKey members)
    (key : String) (value : α) : SortedByKey (putMember key value members) := by
  induction members with
  | nil => exact List.pairwise_singleton _ _
  | cons first rest induction =>
      obtain ⟨above, restSorted⟩ := List.pairwise_cons.mp sorted
      rw [Json.putMember]
      split
      · rename_i same
        subst same
        exact List.pairwise_cons.mpr ⟨above, restSorted⟩
      · rename_i differs
        split
        · rename_i before
          apply List.pairwise_cons.mpr
          refine ⟨?_, sorted⟩
          intro other inside
          rcases List.mem_cons.mp inside with rfl | later
          · exact before
          · exact lt_trans before (above other later)
        · rename_i notBefore
          have behind : first.1 < key := lt_of_le_of_ne (not_lt.mp notBefore) (Ne.symm differs)
          apply List.pairwise_cons.mpr
          refine ⟨?_, induction restSorted⟩
          intro other inside
          rcases (mem_putMember_iff restSorted).mp inside with rfl | ⟨-, later⟩
          · exact behind
          · exact above other later

/-- A member with a key above all others comes last. -/
theorem putMember_of_above {members : List (String × α)} {key : String}
    (above : ∀ member ∈ members, member.1 < key) (value : α) :
    putMember key value members = members ++ [(key, value)] := by
  induction members with
  | nil => rfl
  | cons first rest induction =>
      have behind := above first List.mem_cons_self
      have others := induction fun member inside => above member (List.mem_cons_of_mem _ inside)
      rw [putMember, if_neg (ne_of_gt behind), if_neg (not_lt_of_gt behind), others]
      rfl

theorem foldl_putMember_of_sorted {front members : List (String × α)}
    (sorted : SortedByKey (front ++ members)) :
    members.foldl (fun sorted member => putMember member.1 member.2 sorted) front =
      front ++ members := by
  induction members generalizing front with
  | nil => simp
  | cons first rest induction =>
      have above : ∀ member ∈ front, member.1 < first.1 := by
        intro member inside
        exact (List.pairwise_append.mp sorted).2.2 member inside first List.mem_cons_self
      have next : SortedByKey ((front ++ [first]) ++ rest) := by
        rwa [List.append_assoc, List.singleton_append]
      rw [List.foldl_cons, putMember_of_above above, induction next, List.append_assoc,
        List.singleton_append]

theorem sortMembers_of_sorted {members : List (String × α)} (sorted : SortedByKey members) :
    sortMembers members = members :=
  foldl_putMember_of_sorted sorted

/-- Sorted members are some of the members, in order. -/
theorem sortMembers_spec (members : List (String × α)) :
    SortedByKey (sortMembers members) ∧ ∀ member ∈ sortMembers members, member ∈ members := by
  -- The invariant of the fold, for members of a longer list.
  have kept : ∀ (rest front : List (String × α)), (∀ member ∈ rest, member ∈ members) →
      SortedByKey front → (∀ member ∈ front, member ∈ members) →
        let sorted := rest.foldl (fun sorted member => putMember member.1 member.2 sorted) front
        SortedByKey sorted ∧ ∀ member ∈ sorted, member ∈ members := by
    intro rest
    induction rest with
    | nil =>
        intro front _ sorted among
        exact ⟨sorted, among⟩
    | cons first rest induction =>
        intro front given sorted among
        apply induction
        · intro member inside
          exact given member (List.mem_cons_of_mem _ inside)
        · exact sorted.putMember first.1 first.2
        · intro member inside
          rcases (mem_putMember_iff sorted).mp inside with rfl | ⟨-, present⟩
          · exact given first List.mem_cons_self
          · exact among member present
  exact kept members [] (fun _ inside => inside) List.Pairwise.nil (List.forall_mem_nil _)

end NodeAdmin.Json
