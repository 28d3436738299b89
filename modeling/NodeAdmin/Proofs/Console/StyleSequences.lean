import Mathlib.Data.List.Forall2
import NodeAdmin.Proofs.Console.Printable

/-!
# Style sequences

Texts with their style sequences left out.  No sequence reaches over the end of a line, so that the
lines of a text are those of the text without its styles.
-/

namespace NodeAdmin.Console

open Text

/-! ## Style sequences -/

def isParameter (character : Char) : Bool := character.isDigit || character == ';'

/-- What follows the parameters of a style sequence and the letter that ends it. -/
def afterParameters? : List Char → Option (List Char)
  | [] => none
  | character :: rest =>
      if character = 'm' then some rest
      else if isParameter character then afterParameters? rest
      else none

/-- What follows the style sequence at the start of a text. -/
def afterStyle? : List Char → Option (List Char)
  | first :: second :: rest =>
      if first = escapeCharacter ∧ second = '[' then afterParameters? rest else none
  | _ => none

theorem afterParameters?_eq_some_iff {text rest : List Char} :
    afterParameters? text = some rest ↔
      ∃ parameters, (∀ character ∈ parameters, isParameter character = true) ∧
        text = parameters ++ 'm' :: rest := by
  induction text with
  | nil => simp [afterParameters?]
  | cons first text induction =>
      rw [afterParameters?]
      constructor
      · intro found
        split at found
        · rename_i letter
          cases found
          exact ⟨[], List.forall_mem_nil _, by rw [letter]; rfl⟩
        · split at found
          · rename_i parameterFirst
            obtain ⟨parameters, each, rfl⟩ := induction.mp found
            exact ⟨first :: parameters, List.forall_mem_cons.mpr ⟨parameterFirst, each⟩, rfl⟩
          · cases found
      · rintro ⟨parameters, each, same⟩
        cases parameters with
        | nil =>
            obtain ⟨rfl, rfl⟩ := List.cons.inj same
            exact if_pos rfl
        | cons parameter parameters =>
            obtain ⟨rfl, rfl⟩ := List.cons.inj same
            obtain ⟨parameterFirst, others⟩ := List.forall_mem_cons.mp each
            have noLetter : first ≠ 'm' := by
              rintro rfl
              exact absurd parameterFirst (by decide)
            rw [if_neg noLetter, if_pos parameterFirst]
            exact induction.mpr ⟨parameters, others, rfl⟩

theorem afterStyle?_eq_some_iff {text rest : List Char} :
    afterStyle? text = some rest ↔
      ∃ parameters, (∀ character ∈ parameters, isParameter character = true) ∧
        text = escapeCharacter :: '[' :: (parameters ++ 'm' :: rest) := by
  unfold afterStyle?
  split
  · rename_i first second behind
    split
    · rename_i opens
      obtain ⟨rfl, rfl⟩ := opens
      rw [afterParameters?_eq_some_iff]
      simp
    · rename_i other
      refine ⟨nofun, ?_⟩
      rintro ⟨parameters, -, same⟩
      injection same with isEscape others
      injection others with isBracket _
      exact absurd ⟨isEscape, isBracket⟩ other
  · rename_i short
    refine ⟨nofun, ?_⟩
    rintro ⟨parameters, -, rfl⟩
    exact absurd rfl (short _ _ _)

theorem afterStyle?_length {text rest : List Char} (found : afterStyle? text = some rest) :
    rest.length < text.length := by
  obtain ⟨parameters, -, rfl⟩ := afterStyle?_eq_some_iff.mp found
  simp only [List.length_cons, List.length_append]
  omega

/-- A text without its style sequences. -/
def withoutStyles : List Char → List Char
  | [] => []
  | character :: rest =>
      match _ : afterStyle? (character :: rest) with
      | some behind => withoutStyles behind
      | none => character :: withoutStyles rest
termination_by text => text.length
decreasing_by
  · exact afterStyle?_length ‹_›
  · exact Nat.lt_succ_self _

theorem withoutStyles_sequence {text rest : List Char} (found : afterStyle? text = some rest) :
    withoutStyles text = withoutStyles rest := by
  cases text with
  | nil => cases found
  | cons character text =>
      rw [withoutStyles]
      split
      · rename_i behind same
        rw [found] at same
        rw [Option.some.inj same]
      · rename_i same
        rw [found] at same
        cases same

theorem withoutStyles_character {character : Char} {rest : List Char}
    (none : afterStyle? (character :: rest) = none) :
    withoutStyles (character :: rest) = character :: withoutStyles rest := by
  rw [withoutStyles]
  split
  · rename_i behind same
    rw [none] at same
    cases same
  · rfl

theorem withoutStyles_append {text : List Char} (plain : escapeCharacter ∉ text)
    (rest : List Char) : withoutStyles (text ++ rest) = text ++ withoutStyles rest := by
  induction text with
  | nil => rfl
  | cons character text induction =>
      have others := induction fun inside => plain (List.mem_cons_of_mem _ inside)
      have noStyle : afterStyle? (character :: (text ++ rest)) = none := by
        rw [Option.eq_none_iff_forall_ne_some]
        intro behind found
        obtain ⟨parameters, -, same⟩ := afterStyle?_eq_some_iff.mp found
        exact plain ((List.cons.inj same).1 ▸ List.mem_cons_self)
      rw [List.cons_append, withoutStyles_character noStyle, others, List.cons_append]

theorem withoutStyles_start (style : Style) (rest : List Char) :
    withoutStyles (style.start ++ rest) = withoutStyles rest := by
  apply withoutStyles_sequence
  cases style <;> rfl

theorem withoutStyles_reset (rest : List Char) :
    withoutStyles (reset ++ rest) = withoutStyles rest := withoutStyles_sequence rfl

/-- No line ends inside a style sequence. -/
theorem pieces_withoutStyles (text : List Char) :
    pieces '\n' (withoutStyles text) = (pieces '\n' text).map withoutStyles := by
  fun_induction withoutStyles text with
  | case1 => simp [pieces, withoutStyles]
  | case2 character rest behind found induction =>
      obtain ⟨parameters, each, same⟩ := afterStyle?_eq_some_iff.mp found
      have whole : '\n' ∉ escapeCharacter :: '[' :: (parameters ++ ['m']) := by
        intro inside
        have inParameters : '\n' ∈ parameters := by simpa [escapeCharacter] using inside
        exact absurd (each _ inParameters) (by decide)
      obtain ⟨piece, others, split, splitFront⟩ := pieces_front whole behind
      have sequence : afterStyle? (escapeCharacter :: '[' :: (parameters ++ ['m']) ++ piece) =
          some piece := afterStyle?_eq_some_iff.mpr ⟨parameters, each, by simp⟩
      have parts : character :: rest =
          escapeCharacter :: '[' :: (parameters ++ ['m']) ++ behind := by simp [same]
      rw [induction, parts, splitFront, split, List.map_cons, List.map_cons,
        withoutStyles_sequence sequence]
  | case3 character rest none induction =>
      by_cases same : character = '\n'
      · rw [pieces, if_pos same, pieces, if_pos same, induction, List.map_cons]
        simp [withoutStyles]
      · obtain ⟨piece, others, split, splitAll⟩ := pieces_cons same rest
        obtain ⟨_, _, splitPlain, splitAllPlain⟩ := pieces_cons same (withoutStyles rest)
        rw [induction, split, List.map_cons] at splitPlain
        obtain ⟨rfl, rfl⟩ := List.cons.inj splitPlain
        have noStyle : afterStyle? (character :: piece) = Option.none := by
          rw [Option.eq_none_iff_forall_ne_some]
          intro behind found
          obtain ⟨parameters, each, opened⟩ := afterStyle?_eq_some_iff.mp found
          obtain ⟨more, rfl⟩ := prefix_of_pieces split
          have longer : afterStyle? (character :: (piece ++ more)) = some (behind ++ more) := by
            rw [afterStyle?_eq_some_iff]
            refine ⟨parameters, each, ?_⟩
            rw [← List.cons_append, opened]
            simp
          rw [none] at longer
          cases longer
        rw [splitAllPlain, splitAll, List.map_cons, withoutStyles_character noStyle]

theorem padRight_plain {text : List Char} (width : Nat) (plain : escapeCharacter ∉ text) :
    escapeCharacter ∉ padRight width text := by
  rw [padRight, List.mem_append, not_or]
  exact ⟨plain, fun blank => absurd (List.eq_of_mem_replicate blank) (by decide)⟩

theorem plain_append {front back : String} (left : escapeCharacter ∉ front.toList)
    (right : escapeCharacter ∉ back.toList) : escapeCharacter ∉ (front ++ back).toList := by
  rw [String.toList_append, List.mem_append, not_or]
  exact ⟨left, right⟩

/-! ## Coloured texts -/

/-- Whether a text is another one with style sequences in it, wherever it stands. -/
structure Colours (coloured plain : String) : Prop where
  unstyled : escapeCharacter ∉ plain.toList
  same : ∀ rest, withoutStyles (coloured.toList ++ rest) = plain.toList ++ withoutStyles rest

namespace Colours

theorem of_plain {text : String} (plain : escapeCharacter ∉ text.toList) : Colours text text :=
  ⟨plain, withoutStyles_append plain⟩

theorem of_printable {text : String} (printable : IsPrintable text.toList) : Colours text text :=
  of_plain (printable.not_mem (by decide))

theorem append {first second firstPlain secondPlain : String} (left : Colours first firstPlain)
    (right : Colours second secondPlain) :
    Colours (first ++ second) (firstPlain ++ secondPlain) := by
  constructor
  · exact plain_append left.unstyled right.unstyled
  · intro rest
    rw [String.toList_append, String.toList_append, List.append_assoc, left.same, right.same,
      List.append_assoc]

theorem join {separator : String} (plain : escapeCharacter ∉ separator.toList)
    {texts plains : List String} (each : List.Forall₂ Colours texts plains) :
    Colours (Text.join separator texts) (Text.join separator plains) := by
  induction each with
  | nil => exact of_plain List.not_mem_nil
  | cons first others induction =>
      cases others with
      | nil => exact first
      | cons second others => exact (first.append (of_plain plain)).append induction

theorem styledTo (width : Nat) (style : Option Style) {text : String}
    (plain : escapeCharacter ∉ text.toList) :
    Colours (Console.styledTo width true style text) (Console.styledTo width false style text) := by
  have padded := padRight_plain width plain
  cases style with
  | none => exact of_plain (by rwa [Console.styledTo, String.toList_ofList])
  | some style =>
      simp only [Console.styledTo, Bool.false_eq_true, if_false, if_true]
      constructor
      · rwa [String.toList_ofList]
      · intro rest
        rw [String.toList_ofList, String.toList_ofList, restart_of_not_mem plain,
          List.append_assoc, List.append_assoc, withoutStyles_start, withoutStyles_append padded,
          withoutStyles_reset]

theorem styled (style : Style) {text : String} (plain : escapeCharacter ∉ text.toList) :
    Colours (Console.styled true style text) (Console.styled false style text) :=
  styledTo 0 (some style) plain

theorem withoutStyles_eq {coloured plain : String} (colours : Colours coloured plain) :
    withoutStyles coloured.toList = plain.toList := by
  have whole := colours.same []
  rwa [List.append_nil, withoutStyles, List.append_nil] at whole

end Colours

end NodeAdmin.Console
