import NodeAdmin.Text.Case

/-!
# Lower and upper case of letters

Most letters from `a` to `z` are the lower case of themselves and of their capital alone.
A text whose lower case consists of such letters therefore has the upper case of its lower
case.  The letter `k` is no such letter: it is also the lower case of the sign for Kelvin,
which is its own upper case.
-/

namespace NodeAdmin.Text

/-- A letter from `a` to `z` that is the lower case of no sign besides its capital. -/
def IsPlainLetter (character : Char) : Prop :=
  97 ≤ character.toNat ∧ character.toNat ≤ 122 ∧ character ≠ 'k'

instance : DecidablePred IsPlainLetter :=
  fun _ => inferInstanceAs (Decidable (_ ∧ _))

/-- The run of the letters from `A` to `Z`. -/
def capitalRun : CaseRun := ⟨0x41, 0x5A, 1, 32⟩

/-- Whether a run leads to plain letters: all others end in front of them, start behind
them, or lead to `k` alone. -/
def CaseRun.MissesLetters (run : CaseRun) : Prop :=
  run.last + run.shift < 97 ∨ 122 < run.first + run.shift ∨
    run.first = run.last ∧ run.first + run.shift = 107

instance (run : CaseRun) : Decidable run.MissesLetters := inferInstanceAs (Decidable (_ ∨ _))

theorem lowerRuns_missLetters :
    ∀ run ∈ lowerRuns, run = capitalRun ∨ run.MissesLetters := by
  decide +kernel

theorem lowerExpansions_missLetters :
    ∀ expansion ∈ lowerExpansions, ∃ code ∈ expansion.2, ¬ IsPlainLetter (Char.ofNat code) := by
  decide +kernel

theorem upperCharacter_capital :
    ∀ place < 26, upperCharacter (Char.ofNat (65 + place)) =
      upperCharacter (Char.ofNat (97 + place)) := by
  decide +kernel

/-- What a run makes of the characters that it covers is no plain letter, if the run
misses these. -/
theorem CaseRun.MissesLetters.not_isPlainLetter {run : CaseRun} (misses : run.MissesLetters)
    {code : Nat} (low : run.first ≤ code) (high : code ≤ run.last) :
    ¬ IsPlainLetter (Char.ofNat (code + run.shift).toNat) := by
  rintro ⟨atLeast, atMost, notK⟩
  have counted : (Char.ofNat (code + run.shift).toNat).toNat = (code + run.shift).toNat := by
    by_cases valid : (code + run.shift).toNat.isValidChar
    · rw [Char.ofNat, dif_pos valid]
      rfl
    · rw [Char.ofNat, dif_neg valid] at atLeast
      exact absurd atLeast (by decide)
  rw [counted] at atLeast atMost
  rcases misses with before | behind | ⟨single, isK⟩
  · omega
  · omega
  · have same : (code + run.shift).toNat = 107 := by omega
    exact notK (by rw [same])

/-- A character whose lower case consists of plain letters has one letter as its lower
case, and the upper case of that letter. -/
theorem lowerCharacter_of_plain {character : Char}
    (plain : ∀ letter ∈ lowerCharacter character, IsPlainLetter letter) :
    ∃ letter, lowerCharacter character = [letter] ∧
      upperCharacter character = upperCharacter letter := by
  unfold lowerCharacter mapCase at plain ⊢
  dsimp only at plain ⊢
  cases expanded : lowerExpansions.find? (·.1 == character.toNat) with
  | some expansion =>
      rw [expanded] at plain
      obtain ⟨code, among, notPlain⟩ :=
        lowerExpansions_missLetters expansion (List.mem_of_find?_eq_some expanded)
      exact absurd (plain _ (List.mem_map_of_mem among)) notPlain
  | none =>
      rw [expanded] at plain
      cases moved : lowerRuns.find? (·.covers character.toNat) with
      | none => exact ⟨character, rfl, rfl⟩
      | some run =>
          simp only [moved, List.mem_singleton, forall_eq] at plain
          refine ⟨_, rfl, ?_⟩
          have covered := List.find?_some moved
          simp only [CaseRun.covers, Bool.and_eq_true, decide_eq_true_eq] at covered
          obtain ⟨⟨low, high⟩, -⟩ := covered
          rcases lowerRuns_missLetters run (List.mem_of_find?_eq_some moved) with
            rfl | misses
          · simp only [capitalRun] at low high
            have capital := upperCharacter_capital (character.toNat - 65) (by omega)
            have back : 65 + (character.toNat - 65) = character.toNat := by omega
            have forth : ((character.toNat : Int) + capitalRun.shift).toNat =
                97 + (character.toNat - 65) := by
              simp only [capitalRun]
              omega
            rw [back, Char.ofNat_toNat] at capital
            rw [forth]
            exact capital
          · exact absurd plain (misses.not_isPlainLetter low high)

/-- A text whose lower case consists of plain letters has the upper case of its lower
case. -/
theorem flatMap_upperCharacter_lowerFrom {before text : List Char}
    (plain : ∀ letter ∈ lowerFrom before text, IsPlainLetter letter) :
    (lowerFrom before text).flatMap upperCharacter = text.flatMap upperCharacter := by
  induction text generalizing before with
  | nil => rfl
  | cons character rest induction =>
      rw [lowerFrom] at plain ⊢
      have restPlain := induction fun letter member =>
        plain letter (List.mem_append_right _ member)
      -- The only character whose lower case depends on the text around it.
      have notSigma : character ≠ 'Σ' := by
        rintro rfl
        rw [if_pos rfl] at plain
        split at plain
        · exact absurd (plain 'ς' List.mem_cons_self) (by decide)
        · exact absurd (plain 'σ' List.mem_cons_self) (by decide)
      rw [if_neg notSigma] at plain ⊢
      obtain ⟨letter, lowered, sameUpper⟩ := lowerCharacter_of_plain fun letter member =>
        plain letter (List.mem_append_left _ member)
      rw [lowered, List.singleton_append, List.flatMap_cons, List.flatMap_cons, restPlain,
        sameUpper]

theorem toUpper_toLower {text : String}
    (plain : ∀ letter ∈ (toLower text).toList, IsPlainLetter letter) :
    toUpper (toLower text) = toUpper text := by
  rw [toLower, String.toList_ofList] at plain
  rw [toUpper, toUpper, toLower, String.toList_ofList,
    flatMap_upperCharacter_lowerFrom plain]

end NodeAdmin.Text
