import Mathlib.Data.List.TakeWhile
import NodeAdmin.Text.Pieces

/-!
# Parts of texts

What it means that a text starts with another one, what trimming keeps, and what
cut and joined texts consist of.
-/

namespace NodeAdmin.Text

/-- What can be checked of every character of a text holds of every character. -/
theorem forall_mem_of_all {property : Char → Prop} [DecidablePred property]
    {text : List Char} (all : (text.all fun character => property character) = true) :
    ∀ character ∈ text, property character := by
  intro character member
  exact of_decide_eq_true (List.all_eq_true.mp all character member)

theorem afterStart?_eq_some_iff {start text rest : List Char} :
    afterStart? start text = some rest ↔ text = start ++ rest := by
  induction start generalizing text with
  | nil => simp [afterStart?]
  | cons expected start induction =>
      cases text with
      | nil => simp [afterStart?]
      | cons character text =>
          by_cases same : expected = character
          · subst character
            simp [afterStart?, induction]
          · simp [afterStart?, same, Ne.symm same]

/-- A character that stays keeps all that stands in front of it. -/
theorem dropEnd_append_cons {drop : Char → Bool} {last : Char}
    (kept : drop last = false) (start rest : List Char) :
    dropEnd drop (start ++ last :: rest) = start ++ last :: dropEnd drop rest := by
  have turned : (start ++ last :: rest).reverse =
      rest.reverse ++ last :: start.reverse := by simp
  rw [dropEnd, turned, List.dropWhile_append]
  split <;> rename_i emptied
  · simp only [List.isEmpty_iff] at emptied
    simp [dropEnd, emptied, kept]
  · simp [dropEnd]

theorem mem_of_mem_dropEnd {drop : Char → Bool} {character : Char} {text : List Char}
    (member : character ∈ dropEnd drop text) : character ∈ text := by
  rw [dropEnd, List.mem_reverse] at member
  exact List.mem_reverse.mp ((List.dropWhile_suffix drop).mem member)

theorem dropEnd_eq_nil_iff {drop : Char → Bool} {text : List Char} :
    dropEnd drop text = [] ↔ text.all drop = true := by
  simp [dropEnd, List.dropWhile_eq_nil_iff]

theorem all_dropWhile {drop : Char → Bool} (text : List Char) :
    (text.dropWhile drop).all drop = text.all drop := by
  induction text with
  | nil => rfl
  | cons character text induction =>
      cases dropped : drop character <;> simp [dropped, induction]

/-- Trimming leaves nothing of a text just when the text is blank. -/
theorem trim_isEmpty (text : String) : (trim text).isEmpty = isAllBlank text := by
  have emptied : (trim text).isEmpty = true ↔ isAllBlank text = true := by
    rw [String.isEmpty_iff, ← String.toList_eq_nil_iff]
    simp only [trim, String.toList_ofList, dropEnd_eq_nil_iff, trimFront,
      all_dropWhile, isAllBlank]
  exact Bool.eq_iff_iff.mpr emptied

theorem isBlank_of_isDigit {character : Char} (digit : character.isDigit = true) :
    isBlank character = false := by
  have bounds := Char.isDigit_iff_toNat.mp digit
  have least : 48 ≤ character.toNat := bounds.1
  have most : character.toNat ≤ 57 := bounds.2
  simp [isBlank]
  omega

theorem trimFront_of_head {text : List Char}
    (head : ∀ character ∈ text.head?, isBlank character = false) : trimFront text = text := by
  cases text with
  | nil => rfl
  | cons first rest => exact List.dropWhile_cons_of_neg (by simp [head first rfl])

/-- Trimming takes away blanks around a text and leaves one that is not blank at its ends. -/
theorem trim_surrounded {front text back : List Char}
    (blankFront : ∀ character ∈ front, isBlank character = true)
    (blankBack : ∀ character ∈ back, isBlank character = true)
    (head : ∀ character ∈ text.head?, isBlank character = false)
    (last : ∀ character ∈ text.getLast?, isBlank character = false) :
    (trim (String.ofList (front ++ text ++ back))).toList = text := by
  have backEnd : dropEnd isBlank back = [] :=
    dropEnd_eq_nil_iff.mpr (List.all_eq_true.mpr blankBack)
  rw [trim, String.toList_ofList, String.toList_ofList, List.append_assoc, trimFront,
    List.dropWhile_append_of_pos blankFront]
  rcases List.eq_nil_or_concat text with rfl | ⟨start, final, rfl⟩
  · have blank : back.dropWhile isBlank = [] := List.dropWhile_eq_nil_iff.mpr blankBack
    rw [List.nil_append, blank]
    rfl
  · have visible : isBlank final = false := last final (by simp)
    have kept : trimFront (start ++ [final] ++ back) = start ++ [final] ++ back := by
      apply trimFront_of_head
      cases start with
      | nil => simpa using visible
      | cons first start => simpa using head
    rw [List.concat_eq_append]
    rw [trimFront] at kept
    rw [kept, List.append_assoc, List.singleton_append, dropEnd_append_cons visible, backEnd]

theorem pieces_cons {separator character : Char} (differs : character ≠ separator)
    (rest : List Char) :
    ∃ piece others, pieces separator rest = piece :: others ∧
      pieces separator (character :: rest) = (character :: piece) :: others := by
  induction rest generalizing character with
  | nil => exact ⟨[], [], rfl, by simp [pieces, differs]⟩
  | cons next rest induction =>
      by_cases same : next = separator
      · exact ⟨[], pieces separator rest, by simp [pieces, same],
          by simp [pieces, same, differs]⟩
      · obtain ⟨piece, others, split, splitNext⟩ := induction same
        exact ⟨next :: piece, others, splitNext, by
          rw [pieces, if_neg differs, splitNext]⟩

theorem pieces_cons_cons {separator first second : Char}
    (firstDiffers : first ≠ separator) (secondDiffers : second ≠ separator)
    (rest : List Char) :
    ∃ piece others, pieces separator (first :: second :: rest) =
      (first :: second :: piece) :: others := by
  obtain ⟨piece, others, _, split⟩ := pieces_cons secondDiffers rest
  exact ⟨piece, others, by rw [pieces, if_neg firstDiffers, split]⟩

theorem pieces_ne_nil (separator : Char) (text : List Char) : pieces separator text ≠ [] := by
  cases text with
  | nil => simp [pieces]
  | cons character text =>
      by_cases same : character = separator
      · simp [pieces, same]
      · obtain ⟨piece, others, _, split⟩ := pieces_cons same text
        simp [split]

theorem pieces_append (separator : Char) (front behind : List Char) :
    pieces separator (front ++ separator :: behind) =
      pieces separator front ++ pieces separator behind := by
  induction front with
  | nil => simp [pieces]
  | cons character front induction =>
      by_cases same : character = separator
      · simp [pieces, same, induction]
      · obtain ⟨piece, others, split, splitFront⟩ := pieces_cons same front
        rw [List.cons_append, pieces, if_neg same, induction, split, splitFront]
        rfl

/-- Cutting a text loses nothing of it. -/
theorem intercalate_pieces (separator : Char) (text : List Char) :
    [separator].intercalate (pieces separator text) = text := by
  induction text with
  | nil => rfl
  | cons character text induction =>
      by_cases same : character = separator
      · rw [pieces, if_pos same, List.intercalate_cons_of_ne_nil (pieces_ne_nil _ _),
          induction, same]
        rfl
      · obtain ⟨piece, others, split, splitMore⟩ := pieces_cons same text
        rw [split] at induction
        rw [splitMore]
        cases others with
        | nil => simpa using induction
        | cons next others => simpa using induction

/-- A text without separators in front of another one belongs to its first piece. -/
theorem pieces_front {separator : Char} {front : List Char} (whole : separator ∉ front)
    (behind : List Char) :
    ∃ piece others, pieces separator behind = piece :: others ∧
      pieces separator (front ++ behind) = (front ++ piece) :: others := by
  induction front with
  | nil =>
      obtain ⟨piece, others, split⟩ := List.exists_cons_of_ne_nil (pieces_ne_nil separator behind)
      exact ⟨piece, others, split, split⟩
  | cons character front induction =>
      rw [List.mem_cons, not_or] at whole
      obtain ⟨piece, others, split, splitFront⟩ := induction whole.2
      obtain ⟨_, _, splitRest, splitAll⟩ := pieces_cons (Ne.symm whole.1) (front ++ behind)
      rw [splitFront] at splitRest
      obtain ⟨rfl, rfl⟩ := List.cons.inj splitRest
      exact ⟨piece, _, split, splitAll⟩

theorem prefix_of_pieces {separator : Char} {text piece : List Char} {others : List (List Char)}
    (split : pieces separator text = piece :: others) : piece <+: text := by
  have joined := intercalate_pieces separator text
  rw [split] at joined
  cases others with
  | nil =>
      rw [List.intercalate_singleton] at joined
      exact joined ▸ List.prefix_refl piece
  | cons next others =>
      rw [List.intercalate_cons_cons, List.append_assoc] at joined
      exact ⟨_, joined⟩

theorem length_pieces (separator : Char) (text : List Char) :
    (pieces separator text).length = text.count separator + 1 := by
  induction text with
  | nil => rfl
  | cons character text induction =>
      by_cases same : character = separator
      · rw [pieces, if_pos same, List.length_cons, induction, same, List.count_cons_self]
      · obtain ⟨piece, others, split, splitAll⟩ := pieces_cons same text
        rw [split] at induction
        rw [splitAll, List.count_cons_of_ne same]
        exact induction

theorem pieces_of_not_mem {separator : Char} {text : List Char} (whole : separator ∉ text) :
    pieces separator text = [text] := by
  obtain ⟨piece, others, split, splitAll⟩ := pieces_front whole []
  obtain ⟨rfl, rfl⟩ := List.cons.inj split
  simpa using splitAll

theorem not_mem_of_mem_pieces {separator : Char} {text piece : List Char}
    (inside : piece ∈ pieces separator text) : separator ∉ piece := by
  induction text generalizing piece with
  | nil =>
      rw [List.mem_singleton.mp inside]
      exact List.not_mem_nil
  | cons character text induction =>
      by_cases same : character = separator
      · rw [pieces, if_pos same] at inside
        rcases List.mem_cons.mp inside with rfl | later
        · exact List.not_mem_nil
        · exact induction later
      · obtain ⟨first, others, split, splitAll⟩ := pieces_cons same text
        rw [split] at induction
        rw [splitAll] at inside
        rcases List.mem_cons.mp inside with rfl | later
        · rw [List.mem_cons, not_or]
          exact ⟨Ne.symm same, induction List.mem_cons_self⟩
        · exact induction (List.mem_cons_of_mem _ later)

theorem join_cons_cons (separator first second : String) (rest : List String) :
    join separator (first :: second :: rest) =
      first ++ separator ++ join separator (second :: rest) := rfl

theorem join_append {front behind : List String} (inFront : front ≠ []) (inBack : behind ≠ [])
    (separator : String) :
    join separator (front ++ behind) =
      join separator front ++ separator ++ join separator behind := by
  induction front with
  | nil => exact absurd rfl inFront
  | cons first front induction =>
      cases front with
      | nil =>
          cases behind with
          | nil => exact absurd rfl inBack
          | cons next behind => rfl
      | cons second front =>
          have further := induction (by simp)
          rw [List.cons_append] at further
          rw [List.cons_append, List.cons_append, join_cons_cons, further, join_cons_cons]
          simp only [String.append_assoc]

theorem join_toList (separator : String) (texts : List String) :
    (join separator texts).toList = separator.toList.intercalate (texts.map String.toList) := by
  induction texts with
  | nil => rfl
  | cons first texts induction =>
      cases texts with
      | nil => simp [join]
      | cons second texts =>
          rw [join_cons_cons, String.toList_append, String.toList_append, induction]
          simp [List.intercalate_cons_cons]

/-- Joined texts hold nothing but their separators and themselves. -/
theorem mem_join {separator : String} {texts : List String} {character : Char}
    (member : character ∈ (join separator texts).toList) :
    character ∈ separator.toList ∨ ∃ text ∈ texts, character ∈ text.toList := by
  induction texts with
  | nil => simp [join] at member
  | cons text texts induction =>
      cases texts with
      | nil => exact .inr ⟨text, List.mem_cons_self, member⟩
      | cons next texts =>
          rw [join_cons_cons, String.toList_append, String.toList_append,
            List.mem_append, List.mem_append] at member
          rcases member with (here | between) | later
          · exact .inr ⟨text, List.mem_cons_self, here⟩
          · exact .inl between
          · rcases induction later with between | ⟨other, inRest, there⟩
            · exact .inl between
            · exact .inr ⟨other, List.mem_cons_of_mem _ inRest, there⟩

theorem infix_join {separator text : String} {texts : List String}
    (member : text ∈ texts) : text.toList <:+: (join separator texts).toList := by
  induction texts with
  | nil => exact absurd member List.not_mem_nil
  | cons first texts induction =>
      cases texts with
      | nil =>
          rw [List.mem_singleton.mp member]
          exact List.infix_refl _
      | cons second texts =>
          rw [join_cons_cons, String.toList_append, String.toList_append]
          rcases List.mem_cons.mp member with rfl | inRest
          · rw [List.append_assoc]
            exact (List.prefix_append _ _).isInfix
          · exact (induction inRest).trans (List.suffix_append _ _).isInfix

/-- The lines of texts that are joined line by line. -/
theorem pieces_join {texts : List String} (some : texts ≠ []) :
    pieces '\n' (join "\n" texts).toList = texts.flatMap fun text => pieces '\n' text.toList := by
  induction texts with
  | nil => exact absurd rfl some
  | cons first texts induction =>
      cases texts with
      | nil => simp [join]
      | cons second texts =>
          have others := induction (List.cons_ne_nil _ _)
          have parts : (join "\n" (first :: second :: texts)).toList =
              first.toList ++ '\n' :: (join "\n" (second :: texts)).toList := by
            rw [join_cons_cons, String.toList_append, String.toList_append, List.append_assoc]
            rfl
          rw [parts, pieces_append, others]
          rfl

end NodeAdmin.Text
