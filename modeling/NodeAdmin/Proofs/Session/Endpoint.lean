import Mathlib.Data.List.DropRight
import NodeAdmin.Proofs.Text.Ends
import NodeAdmin.Proofs.Url.LocalHost

/-!
# Endpoints without trailing slashes

The slashes at the end of an address are dropped before the address is used.  The verdict on the
address stays the same, except where there is nothing but slashes behind the scheme: there the
slashes of the scheme itself are dropped with the others.
-/

namespace NodeAdmin

namespace Text

/-- What stays of a text stands in front of what is dropped at its end. -/
theorem dropEnd_append_dropped (drop : Char → Bool) (text : List Char) :
    ∃ dropped, text = dropEnd drop text ++ dropped ∧ dropped.all drop = true := by
  refine ⟨(text.reverse.takeWhile drop).reverse, ?_, ?_⟩
  · rw [dropEnd, ← List.reverse_append, List.takeWhile_append_dropWhile, List.reverse_reverse]
  · rw [List.all_reverse, List.all_takeWhile]

/-- A start is kept where not all of what follows is dropped, and else loses its own end. -/
theorem dropEnd_append (drop : Char → Bool) (start rest : List Char) :
    dropEnd drop (start ++ rest) =
      if rest.all drop then dropEnd drop start else start ++ dropEnd drop rest := by
  have emptied : (rest.reverse.dropWhile drop).isEmpty = rest.all drop := by
    rw [← List.all_reverse, ← all_dropWhile, Bool.eq_iff_iff, List.isEmpty_iff]
    constructor
    · intro nothing
      rw [nothing, List.all_nil]
    · intro all
      rw [all_dropWhile] at all
      rw [List.dropWhile_eq_nil_iff]
      exact List.all_eq_true.mp all
  rw [dropEnd, List.reverse_append, List.dropWhile_append, emptied]
  split
  · rfl
  · rw [List.reverse_append, List.reverse_reverse, dropEnd]

theorem dropTrailingSlashes_toList (text : String) :
    (dropTrailingSlashes text).toList = dropEnd (· == '/') text.toList := by
  rw [dropTrailingSlashes, String.toList_ofList]

/-- Slashes are dropped once and for all. -/
theorem dropTrailingSlashes_twice (text : String) :
    dropTrailingSlashes (dropTrailingSlashes text) = dropTrailingSlashes text := by
  rw [← String.toList_inj, dropTrailingSlashes_toList, dropTrailingSlashes_toList, dropEnd, dropEnd,
    List.reverse_reverse, List.dropWhile_idempotent]

end Text

namespace Endpoint

/-- Whether an address is the scheme for HTTPS with nothing but slashes behind it. -/
def IsSchemeAlone (address : String) : Prop :=
  ∃ rest, address.toList = "https://".toList ++ rest ∧ rest.all (· == '/') = true

theorem isSafe_of_https {address : String} {rest : List Char}
    (secure : address.toList = "https://".toList ++ rest) : isSafe address = true := by
  unfold isSafe
  rw [Text.afterStart?_eq_some_iff.mpr secure]

theorem isSafe_of_local {address : String} {rest : List Char}
    (unencrypted : address.toList = "http://".toList ++ rest)
    (found : String.ofList (hostOf rest) ∈ localHosts) : isSafe address = true := by
  have insecure : Text.afterStart? "https://".toList address.toList = none := by
    rw [unencrypted]
    rfl
  unfold isSafe
  rw [insecure, Text.afterStart?_eq_some_iff.mpr unencrypted]
  simpa using found

/-- Slashes at the end have no say in the host. -/
theorem hostOf_append_slashes (text : List Char) {slashes : List Char}
    (all : slashes.all (· == '/') = true) : hostOf (text ++ slashes) = hostOf text := by
  have authority : (text ++ slashes).takeWhile (· != '/') = text.takeWhile (· != '/') := by
    cases slashes with
    | nil => rw [List.append_nil]
    | cons slash slashes =>
        rw [List.all_cons, Bool.and_eq_true, beq_iff_eq] at all
        rw [all.1, Url.takeWhile_append_stop (by decide)]
  unfold hostOf
  rw [authority]

/-- An address is accepted without the slashes at its end just when it was accepted with them and
is more than its scheme. -/
theorem isSafe_dropTrailingSlashes (address : String) :
    isSafe (Text.dropTrailingSlashes address) = true ↔
      isSafe address = true ∧ ¬ IsSchemeAlone address := by
  have dropped := Text.dropTrailingSlashes_toList address
  obtain ⟨slashes, split, all⟩ := Text.dropEnd_append_dropped (· == '/') address.toList
  constructor
  · intro safe
    rcases isSafe_cases safe with ⟨rest, secure⟩ | ⟨rest, unencrypted, found⟩
    · rw [dropped] at secure
      rw [secure, List.append_assoc] at split
      refine ⟨isSafe_of_https split, ?_⟩
      -- With nothing but slashes behind it, the scheme would have lost its own.
      rintro ⟨further, alone, allFurther⟩
      rw [alone, Text.dropEnd_append, if_pos allFurther] at secure
      cases secure
    · rw [dropped] at unencrypted
      rw [unencrypted, List.append_assoc] at split
      rw [← hostOf_append_slashes rest all] at found
      refine ⟨isSafe_of_local split found, ?_⟩
      rintro ⟨further, alone, -⟩
      rw [split] at alone
      cases alone
  · rintro ⟨safe, notAlone⟩
    rcases isSafe_cases safe with ⟨rest, secure⟩ | ⟨rest, unencrypted, found⟩
    · have more : ¬ rest.all (· == '/') = true := fun alone => notAlone ⟨rest, secure, alone⟩
      rw [secure, Text.dropEnd_append, if_neg more] at dropped
      exact isSafe_of_https dropped
    · obtain ⟨first, others, rfl, -, visible⟩ := Url.first_of_hostOf found
      have more : ¬ (first :: others).all (· == '/') = true := by
        intro allSlashes
        rw [List.all_cons, Bool.and_eq_true, beq_iff_eq] at allSlashes
        rw [allSlashes.1] at visible
        cases visible
      obtain ⟨ending, restSplit, allEnding⟩ :=
        Text.dropEnd_append_dropped (· == '/') (first :: others)
      rw [unencrypted, Text.dropEnd_append, if_neg more] at dropped
      apply isSafe_of_local dropped
      rw [← hostOf_append_slashes _ allEnding, ← restSplit]
      exact found

end Endpoint

end NodeAdmin
