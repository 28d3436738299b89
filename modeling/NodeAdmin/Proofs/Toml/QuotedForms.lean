import Mathlib.Data.List.Infix
import NodeAdmin.Proofs.Toml.QuotedRoundTrip

/-!
# The forms of quoted texts

The characters of a text decide how it is written.  The first style that shows the text
without escapes is taken, where tabs between double quotes do not count as escapes; if
no style does, the text is escaped between double quotes.
-/

namespace NodeAdmin.Toml.Quoted

/-! ## Runs of a mark -/

/-- Whether a mark stands in a text so many times in a row. -/
def HasRun (mark : Char) (count : Nat) (text : List Char) : Prop :=
  List.replicate count mark <:+: text

/-- A run in front of another character ends there. -/
theorem count_le_of_leading_run {mark character : Char} (differs : character ≠ mark)
    {count : Nat} (run : Nat) {rest : List Char}
    (starts : List.replicate count mark <+: List.replicate run mark ++ character :: rest) :
    count ≤ run := by
  induction count generalizing run with
  | zero => exact Nat.zero_le run
  | succ count induction =>
      cases run with
      | zero =>
          obtain ⟨same, -⟩ := List.cons_prefix_cons.mp starts
          exact absurd same.symm differs
      | succ run =>
          obtain ⟨-, further⟩ := List.cons_prefix_cons.mp starts
          exact Nat.succ_le_succ (induction run further)

/-- A run in a text with another character in it stands on one side of it. -/
theorem hasRun_split {mark character : Char} (differs : character ≠ mark)
    {count run : Nat} {rest : List Char}
    (inside : HasRun mark count (List.replicate run mark ++ character :: rest)) :
    count ≤ run ∨ HasRun mark count rest := by
  induction run with
  | zero =>
      rcases List.infix_cons_iff.mp inside with starts | later
      · exact .inl (count_le_of_leading_run differs 0 starts)
      · exact .inr later
  | succ run induction =>
      rcases List.infix_cons_iff.mp inside with starts | later
      · exact .inl (count_le_of_leading_run differs (run + 1) starts)
      · exact (induction later).imp_left (Nat.le_trans · (Nat.le_succ run))

theorem le_longestRun_iff {mark : Char} {count run : Nat} {text : List Char} :
    count ≤ longestRun mark run text ↔
      HasRun mark count (List.replicate run mark ++ text) := by
  induction text generalizing run with
  | nil =>
      rw [longestRun, List.append_nil]
      constructor
      · intro few
        obtain ⟨more, rfl⟩ := Nat.exists_eq_add_of_le few
        rw [HasRun, List.replicate_add]
        exact (List.prefix_append _ _).isInfix
      · intro inside
        simpa using inside.length_le
  | cons character text induction =>
      rw [longestRun]
      by_cases same : character = mark
      · subst character
        have moved : List.replicate run mark ++ mark :: text =
            List.replicate (run + 1) mark ++ text := by
          simp [List.replicate_succ']
        rw [if_pos rfl, moved]
        exact induction
      · rw [if_neg same]
        constructor
        · intro few
          rcases le_max_iff.mp few with before | behind
          · obtain ⟨more, rfl⟩ := Nat.exists_eq_add_of_le before
            rw [HasRun, List.replicate_add, List.append_assoc]
            exact (List.prefix_append _ _).isInfix
          · have inRest : HasRun mark count text := induction.mp behind
            exact inRest.trans
              ((List.suffix_cons character text).trans (List.suffix_append _ _)).isInfix
        · intro inside
          rcases hasRun_split same inside with before | behind
          · exact le_max_iff.mpr (.inl before)
          · exact le_max_iff.mpr (.inr (induction.mpr behind))

theorem longestRun_lt_iff {mark : Char} {count : Nat} {text : List Char} :
    longestRun mark 0 text < count ↔ ¬ HasRun mark count text := by
  rw [← Nat.not_le, le_longestRun_iff]
  rfl

theorem hasRun_one {mark : Char} {text : List Char} : HasRun mark 1 text ↔ mark ∈ text :=
  List.singleton_infix_iff mark text

/-! ## Styles -/

/-- Whether no character of a text has to be escaped in every style. -/
def IsBare (text : List Char) : Prop :=
  ∀ character ∈ text, needsEscape character = false

/-- Whether a style shows a text without escapes. -/
def Style.Shows (text : List Char) : Style → Prop
  | .basic => IsBare text ∧ '\\' ∉ text ∧ '"' ∉ text ∧ '\n' ∉ text
  | .literal => IsBare text ∧ '\'' ∉ text ∧ '\n' ∉ text
  | .multiBasic => IsBare text ∧ '\\' ∉ text ∧ ¬ HasRun '"' 3 text
  | .multiLiteral => IsBare text ∧ ¬ HasRun '\'' 3 text

/-- A text between double quotes of which only the tabs are escaped. -/
def escapeTabs (text : List Char) : List Char :=
  text.flatMap fun character => if character = '\t' then ['\\', 't'] else [character]

/-- How a text is written in quotes. -/
inductive Form (text : List Char) : List Char → Prop where
  | basic (shows : Style.basic.Shows text) :
      Form text ('"' :: (escapeTabs text ++ ['"']))
  | literal (notBasic : ¬ Style.basic.Shows text) (shows : Style.literal.Shows text) :
      Form text ('\'' :: (text ++ ['\'']))
  | multiBasic (notBasic : ¬ Style.basic.Shows text)
      (notLiteral : ¬ Style.literal.Shows text) (shows : Style.multiBasic.Shows text) :
      Form text ("\"\"\"".toList ++ opening text ++ escapeTabs text ++ "\"\"\"".toList)
  | multiLiteral (notBasic : ¬ Style.basic.Shows text)
      (notLiteral : ¬ Style.literal.Shows text)
      (notMultiBasic : ¬ Style.multiBasic.Shows text)
      (shows : Style.multiLiteral.Shows text) :
      Form text ("'''".toList ++ opening text ++ text ++ "'''".toList)
  | escapedLines (none : ∀ style : Style, ¬ style.Shows text) (lines : '\n' ∈ text) :
      Form text ("\"\"\"\n".toList ++ escapeText true 0 text ++ "\"\"\"".toList)
  | escapedLine (none : ∀ style : Style, ¬ style.Shows text) (oneLine : '\n' ∉ text) :
      Form text ('"' :: (escapeText false 0 text ++ ['"']))

/-! ## The choice of the writer -/

theorem contains_eq_false {mark : Char} {text : List Char} :
    text.contains mark = false ↔ mark ∉ text := by
  simp

theorem any_needsEscape_eq_false {text : List Char} :
    text.any needsEscape = false ↔ IsBare text := by
  simp [IsBare]

section

variable {text : List Char}

theorem shows_basic_iff : Style.basic.Shows text ↔
    (!text.any needsEscape && !text.contains '\\' && longestRun '"' 0 text == 0 &&
      !text.contains '\n') = true := by
  have noQuote : longestRun '"' 0 text = 0 ↔ '"' ∉ text := by
    rw [← hasRun_one, ← longestRun_lt_iff, Nat.lt_one_iff]
  simp only [Style.Shows, ← any_needsEscape_eq_false, Bool.and_eq_true,
    Bool.not_eq_true', contains_eq_false, beq_iff_eq, noQuote, and_assoc]

theorem shows_literal_iff : Style.literal.Shows text ↔
    (!text.any needsEscape && longestRun '\'' 0 text == 0 && !text.contains '\n') =
      true := by
  have noQuote : longestRun '\'' 0 text = 0 ↔ '\'' ∉ text := by
    rw [← hasRun_one, ← longestRun_lt_iff, Nat.lt_one_iff]
  simp only [Style.Shows, ← any_needsEscape_eq_false, Bool.and_eq_true,
    Bool.not_eq_true', contains_eq_false, beq_iff_eq, noQuote, and_assoc]

theorem shows_multiBasic_iff : Style.multiBasic.Shows text ↔
    (!text.any needsEscape && !text.contains '\\' && longestRun '"' 0 text ≤ 2) =
      true := by
  simp only [Style.Shows, ← any_needsEscape_eq_false, ← longestRun_lt_iff,
    Bool.and_eq_true, Bool.not_eq_true', contains_eq_false, decide_eq_true_eq,
    Nat.lt_succ_iff, and_assoc]

theorem shows_multiLiteral_iff : Style.multiLiteral.Shows text ↔
    (!text.any needsEscape && longestRun '\'' 0 text ≤ 2) = true := by
  simp only [Style.Shows, ← any_needsEscape_eq_false, ← longestRun_lt_iff,
    Bool.and_eq_true, Bool.not_eq_true', decide_eq_true_eq, Nat.lt_succ_iff]

end

/-- Between double quotes only tabs of a bare text without backslashes are escaped, as
long as no more quotes stand in a row than may. -/
theorem escapeText_eq_escapeTabs {lines : Bool} {run : Nat} {text : List Char}
    (bare : IsBare text) (noBackslash : '\\' ∉ text)
    (ownLines : '\n' ∈ text → lines = true)
    (few : longestRun '"' run text ≤ quoteLimit lines) :
    escapeText lines run text = escapeTabs text := by
  induction text generalizing run with
  | nil => rfl
  | cons character text induction =>
      have textBare : IsBare text :=
        fun other member => bare other (List.mem_cons_of_mem _ member)
      have textBackslash : '\\' ∉ text :=
        fun member => noBackslash (List.mem_cons_of_mem _ member)
      have textLines (member : '\n' ∈ text) : lines = true :=
        ownLines (List.mem_cons_of_mem _ member)
      rw [escapeText, escapeTabs, List.flatMap_cons]
      rw [longestRun] at few
      by_cases quote : character = '"'
      · rw [if_pos quote] at few
        have room : run < quoteLimit lines :=
          Nat.lt_of_succ_le (Nat.le_trans (le_longestRun _ _ _) few)
        rw [if_pos quote, if_pos room,
          induction textBare textBackslash textLines few, quote]
        rfl
      · rw [if_neg quote] at few
        rw [if_neg quote, induction textBare textBackslash textLines
          (Nat.le_trans (Nat.le_max_right _ _) few)]
        have plain := bare character List.mem_cons_self
        have noSlash : character ≠ '\\' := by
          rintro rfl
          exact noBackslash List.mem_cons_self
        have written : escapeCharacter lines character =
            if character = '\t' then ['\\', 't'] else [character] := by
          unfold escapeCharacter
          split
          · rfl
          · rename_i noTab
            split
            · rename_i lineFeed
              subst lineFeed
              rw [ownLines List.mem_cons_self]
              rfl
            · rename_i noLineFeed
              simp only [needsEscape, Bool.or_eq_false_iff, Bool.and_eq_false_iff,
                decide_eq_false_iff_not, bne_eq_false_iff_eq, noTab, noLineFeed,
                or_false, beq_eq_false_iff_ne] at plain
              have noReturn : character ≠ '\r' := by
                rintro rfl
                exact plain.1 (by decide)
              rw [if_neg noReturn, if_neg (by omega), if_neg (by omega), if_neg (by omega)]
        rw [written]
        rfl

theorem opening_of_lines {text : List Char} (lines : '\n' ∈ text) :
    opening text = ['\n'] := by
  simp [opening, lines]

open Classical in
/-- The writer takes the first style that shows a text. -/
theorem styleOf_eq (text : List Char) :
    styleOf text =
      if Style.basic.Shows text then Style.basic
      else if Style.literal.Shows text then Style.literal
      else if Style.multiBasic.Shows text then Style.multiBasic
      else if Style.multiLiteral.Shows text then Style.multiLiteral
      else if '\n' ∈ text then Style.multiBasic
      else Style.basic := by
  simp only [shows_basic_iff, shows_literal_iff, shows_multiBasic_iff,
    shows_multiLiteral_iff, ← List.contains_iff_mem]
  rfl

/-- The writer follows the rules. -/
theorem encode_form (text : List Char) : Form text (encode text) := by
  rw [encode, styleOf_eq]
  by_cases basic : Style.basic.Shows text
  · have ⟨bare, noBackslash, noQuote, oneLine⟩ := basic
    have few : longestRun '"' 0 text ≤ quoteLimit false := by
      rw [← hasRun_one, ← longestRun_lt_iff] at noQuote
      exact Nat.le_of_lt_succ noQuote
    rw [if_pos basic]
    dsimp only
    rw [escapeText_eq_escapeTabs bare noBackslash (fun lines => absurd lines oneLine) few]
    exact .basic basic
  · rw [if_neg basic]
    by_cases literal : Style.literal.Shows text
    · rw [if_pos literal]
      exact .literal basic literal
    · rw [if_neg literal]
      by_cases multiBasic : Style.multiBasic.Shows text
      · have ⟨bare, noBackslash, noRun⟩ := multiBasic
        have few : longestRun '"' 0 text ≤ quoteLimit true :=
          Nat.le_of_lt_succ (longestRun_lt_iff.mpr noRun)
        rw [if_pos multiBasic]
        dsimp only
        rw [escapeText_eq_escapeTabs bare noBackslash (fun _ => rfl) few]
        exact .multiBasic basic literal multiBasic
      · rw [if_neg multiBasic]
        by_cases multiLiteral : Style.multiLiteral.Shows text
        · rw [if_pos multiLiteral]
          exact .multiLiteral basic literal multiBasic multiLiteral
        · have none (style : Style) : ¬ style.Shows text := by
            cases style with
            | basic => exact basic
            | literal => exact literal
            | multiBasic => exact multiBasic
            | multiLiteral => exact multiLiteral
          rw [if_neg multiLiteral]
          by_cases lines : '\n' ∈ text
          · rw [if_pos lines]
            dsimp only
            rw [opening_of_lines lines]
            exact .escapedLines none lines
          · rw [if_neg lines]
            exact .escapedLine none lines

end NodeAdmin.Toml.Quoted
