import Mathlib.Tactic.IntervalCases
import NodeAdmin.Json.Printer
import NodeAdmin.Json.Tree

/-!
# Strings in documents

A string is written between quotes, each of its characters as itself or as an escape.  It is
read to the characters that are spelled, and its end is found when it is passed over.
-/

namespace NodeAdmin.Json

/-- The spellings of a character inside a string. -/
inductive Spells (character : Char) : List Char → Prop where
  | plain (noQuote : character ≠ '"') (noBackslash : character ≠ '\\')
      (shown : 32 ≤ character.toNat) : Spells character [character]
  | letter {letter : Char} (means : unescape? letter = some character) :
      Spells character ['\\', letter]
  | code {first second third fourth : Char}
      (means : Text.hexNumber? [first, second, third, fourth] = some character.toNat) :
      Spells character ['\\', 'u', first, second, third, fourth]

/-- Whether a text is a string in quotes with these characters. -/
def Quotes (characters text : List Char) : Prop :=
  ∃ spellings, List.Forall₂ Spells characters spellings ∧
    text = '"' :: (spellings.flatten ++ ['"'])

/-! ## Reading one character -/

theorem readCharacters_plain {character : Char} (noQuote : character ≠ '"')
    (noBackslash : character ≠ '\\') (shown : 32 ≤ character.toNat) (rest : List Char) :
    readCharacters none (character :: rest) =
      prepend character (readCharacters none rest) := by
  have visible : ¬ character.toNat < 32 := Nat.not_lt.mpr shown
  simp [readCharacters, noBackslash, visible]

theorem passCharacters_plain {character : Char} (noQuote : character ≠ '"')
    (noBackslash : character ≠ '\\') (shown : 32 ≤ character.toNat) (rest : List Char) :
    passCharacters (character :: rest) = passCharacters rest := by
  have visible : ¬ character.toNat < 32 := Nat.not_lt.mpr shown
  simp [passCharacters, noBackslash, visible]

/-- The letter of a code is no escape of its own. -/
theorem ne_code_letter {letter character : Char} (means : unescape? letter = some character) :
    letter ≠ 'u' := by
  have noEscape : unescape? 'u' = none := by decide
  rintro rfl
  rw [noEscape] at means
  cases means

theorem readCharacters_letter {letter character : Char}
    (means : unescape? letter = some character) (rest : List Char) :
    readCharacters none ('\\' :: letter :: rest) =
      prepend character (readCharacters none rest) := by
  simp [readCharacters, ne_code_letter means, means]

theorem passCharacters_letter {letter character : Char}
    (means : unescape? letter = some character) (rest : List Char) :
    passCharacters ('\\' :: letter :: rest) = passCharacters rest := by
  simp [passCharacters, ne_code_letter means, means]

/-- The code of a character is no half of a surrogate pair. -/
theorem not_surrogate (character : Char) :
    isLowSurrogate character.toNat = false ∧ isHighSurrogate character.toNat = false := by
  have valid : character.toNat.isValidChar := character.valid
  unfold Nat.isValidChar at valid
  constructor
  · simp only [isLowSurrogate, Bool.and_eq_false_iff, decide_eq_false_iff_not]
    omega
  · simp only [isHighSurrogate, Bool.and_eq_false_iff, decide_eq_false_iff_not]
    omega

theorem readCharacters_code {character first second third fourth : Char}
    (means : Text.hexNumber? [first, second, third, fourth] = some character.toNat)
    (rest : List Char) :
    readCharacters none ('\\' :: 'u' :: first :: second :: third :: fourth :: rest) =
      prepend character (readCharacters none rest) := by
  obtain ⟨noLow, noHigh⟩ := not_surrogate character
  simp [readCharacters, means, noLow, noHigh]

theorem passCharacters_code {character first second third fourth : Char}
    (means : Text.hexNumber? [first, second, third, fourth] = some character.toNat)
    (rest : List Char) :
    passCharacters ('\\' :: 'u' :: first :: second :: third :: fourth :: rest) =
      passCharacters rest := by
  simp [passCharacters, means]

theorem Spells.readCharacters_append {character : Char} {spelling : List Char}
    (spells : Spells character spelling) (rest : List Char) :
    readCharacters none (spelling ++ rest) =
      prepend character (readCharacters none rest) := by
  cases spells with
  | plain noQuote noBackslash shown =>
      exact readCharacters_plain noQuote noBackslash shown rest
  | letter means => exact readCharacters_letter means rest
  | code means => exact readCharacters_code means rest

theorem Spells.passCharacters_append {character : Char} {spelling : List Char}
    (spells : Spells character spelling) (rest : List Char) :
    passCharacters (spelling ++ rest) = passCharacters rest := by
  cases spells with
  | plain noQuote noBackslash shown =>
      exact passCharacters_plain noQuote noBackslash shown rest
  | letter means => exact passCharacters_letter means rest
  | code means => exact passCharacters_code means rest

/-! ## Reading strings -/

theorem readCharacters_spellings {characters : List Char} {spellings : List (List Char)}
    (spelled : List.Forall₂ Spells characters spellings) (rest : List Char) :
    readCharacters none (spellings.flatten ++ '"' :: rest) = .ok (characters, rest) := by
  induction spelled with
  | nil => simp [readCharacters]
  | cons spells _ induction =>
      rw [List.flatten_cons, List.append_assoc, spells.readCharacters_append, induction]
      rfl

theorem passCharacters_spellings {characters : List Char} {spellings : List (List Char)}
    (spelled : List.Forall₂ Spells characters spellings) (rest : List Char) :
    passCharacters (spellings.flatten ++ '"' :: rest) = .ok rest := by
  induction spelled with
  | nil => simp [passCharacters]
  | cons spells _ induction =>
      rw [List.flatten_cons, List.append_assoc, spells.passCharacters_append, induction]

/-- A string in quotes is read to its characters, whatever follows it. -/
theorem Quotes.stringStep_append {characters text : List Char} (quotes : Quotes characters text) :
    ∃ behind, text = '"' :: behind ∧ ∀ rest,
      stringStep (behind ++ rest) = (.string (.ok (String.ofList characters)), some rest) := by
  obtain ⟨spellings, spelled, rfl⟩ := quotes
  refine ⟨_, rfl, ?_⟩
  intro rest
  rw [List.append_assoc, List.singleton_append, stringStep, readCharacters_spellings spelled,
    passCharacters_spellings spelled]

/-! ## Written strings -/

theorem hexNumber?_lowerHex {code : Nat} (control : code < 32) :
    ∃ first second third fourth, Text.lowerHex 4 code = [first, second, third, fourth] ∧
      Text.hexNumber? [first, second, third, fourth] = some code := by
  interval_cases code <;> exact ⟨_, _, _, _, rfl, rfl⟩

theorem spells_escape (character : Char) : Spells character (escape character) := by
  unfold escape
  split
  · rename_i quote
    subst quote
    exact .letter rfl
  split
  · rename_i backslash
    subst backslash
    exact .letter rfl
  split
  · rename_i lineFeed
    subst lineFeed
    exact .letter rfl
  split
  · rename_i carriageReturn
    subst carriageReturn
    exact .letter rfl
  split
  · rename_i tab
    subst tab
    exact .letter rfl
  split
  · rename_i code
    have backspace : character = Char.ofNat 8 := by rw [← code, Char.ofNat_toNat]
    subst backspace
    exact .letter rfl
  split
  · rename_i code
    have formFeed : character = Char.ofNat 12 := by rw [← code, Char.ofNat_toNat]
    subst formFeed
    exact .letter rfl
  split
  · rename_i control
    obtain ⟨first, second, third, fourth, digits, means⟩ := hexNumber?_lowerHex control
    rw [digits]
    exact .code means
  · rename_i noQuote noBackslash _ _ _ _ _ shown
    exact .plain noQuote noBackslash (Nat.not_lt.mp shown)

theorem quotes_quoted (value : String) : Quotes value.toList (quoted value) := by
  refine ⟨value.toList.map escape, ?_, ?_⟩
  · induction value.toList with
    | nil => exact .nil
    | cons character rest induction => exact .cons (spells_escape character) induction
  · rw [quoted, List.flatMap_def]

end NodeAdmin.Json
