import NodeAdmin.Proofs.Text.Hex
import NodeAdmin.Toml.Quoted

/-!
# Quoted texts read back

The reader gives back every text that the writer quotes, in whichever of the four
styles.  Quotes behind the closing ones would be taken for a part of the text, so
something else has to follow.
-/

namespace NodeAdmin.Toml.Quoted

/-- Whether a text does not go on with a quote. -/
def Unquoted (rest : List Char) : Prop :=
  ∀ character ∈ rest.head?, character ≠ '"' ∧ character ≠ '\''

/-! ## Double quotes -/

theorem readBasic_quote (rest : List Char) :
    readBasic false .text ('"' :: rest) = some ([], rest) := by
  simp [readBasic]

theorem readBasic_three_quotes (rest : List Char) :
    readBasic true .text ('"' :: '"' :: '"' :: rest) = some (closing '"' rest) := by
  simp [readBasic]

/-- A quote that no two quotes follow belongs to the text. -/
theorem readBasic_lone_quote {rest : List Char}
    (alone : ∀ others, rest ≠ '"' :: '"' :: others) :
    readBasic true .text ('"' :: rest) =
      prepend '"' (readBasic true .text rest) := by
  simp only [readBasic, reduceCtorEq, false_and, if_false, if_true]

theorem readBasic_escape {letter value : Char} (means : unescape? letter = some value)
    (lines : Bool) (rest : List Char) :
    readBasic lines .text ('\\' :: letter :: rest) =
      prepend value (readBasic lines .text rest) := by
  simp [readBasic, means]

theorem readBasic_character {lines : Bool} {character : Char}
    (noQuote : character ≠ '"') (noBackslash : character ≠ '\\')
    (shown : isTextCharacter character = true ∨ (lines = true ∧ character = '\n'))
    (rest : List Char) :
    readBasic lines .text (character :: rest) =
      prepend character (readBasic lines .text rest) := by
  simp [readBasic, noQuote, noBackslash, shown]

/-! ### Character codes -/

theorem upperHex_four (code : Nat) :
    Text.upperHex 4 code =
      [Text.upperHexDigit (code / 16 / 16 / 16 % 16),
        Text.upperHexDigit (code / 16 / 16 % 16), Text.upperHexDigit (code / 16 % 16),
        Text.upperHexDigit (code % 16)] := by
  simp [Text.upperHex]

theorem readBasic_code {character : Char} (short : character.toNat < 65536)
    (lines : Bool) (rest : List Char) :
    readBasic lines .text
        ('\\' :: 'u' :: (Text.upperHex 4 character.toNat ++ rest)) =
      prepend character (readBasic lines .text rest) := by
  have digits (value : Nat) :=
    Text.hexValue?_upperHexDigit (Nat.mod_lt value (by decide : 16 > 0))
  have spelled : ((character.toNat / 16 / 16 / 16 % 16 * 16 +
      character.toNat / 16 / 16 % 16) * 16 + character.toNat / 16 % 16) * 16 +
      character.toNat % 16 = character.toNat := by omega
  have whole : character? character.toNat = some character := by
    have valid : character.toNat.isValidChar := character.valid
    rw [character?, if_pos valid, Char.ofNat_toNat]
  have letters : unescape? 'u' = none := by decide
  rw [upperHex_four]
  simp [readBasic, digits, letters, spelled, whole]

/-! ### Escaped texts -/

/-- A character other than a quote is read back from the way it is written. -/
theorem readBasic_escapeCharacter {character : Char} (noQuote : character ≠ '"')
    (lines : Bool) (rest : List Char) :
    readBasic lines .text (escapeCharacter lines character ++ rest) =
      prepend character (readBasic lines .text rest) := by
  unfold escapeCharacter
  split
  · rename_i tab
    subst tab
    exact readBasic_escape rfl lines rest
  · split
    · rename_i lineFeed
      subst lineFeed
      cases lines with
      | false => exact readBasic_escape rfl false rest
      | true => exact readBasic_character (by decide) (by decide) (by simp) rest
    · split
      · rename_i carriageReturn
        subst carriageReturn
        exact readBasic_escape rfl lines rest
      · split
        · rename_i backslash
          subst backslash
          exact readBasic_escape rfl lines rest
        · rename_i noTab _ _ noBackslash
          split
          · rename_i code
            have backspace : character = Char.ofNat 8 := by
              rw [← code, Char.ofNat_toNat]
            subst backspace
            exact readBasic_escape rfl lines rest
          · split
            · rename_i code
              have formFeed : character = Char.ofNat 12 := by
                rw [← code, Char.ofNat_toNat]
              subst formFeed
              exact readBasic_escape rfl lines rest
            · split
              · rename_i control
                exact readBasic_code (by omega) lines rest
              · rename_i shown
                apply readBasic_character noQuote noBackslash
                left
                simp only [isTextCharacter, Bool.or_eq_true, Bool.and_eq_true,
                  decide_eq_true_eq, bne_iff_ne]
                omega

theorem readBasic_escapeText_line (text : List Char) (run : Nat) (rest : List Char) :
    readBasic false .text (escapeText false run text ++ '"' :: rest) =
      some (text, rest) := by
  induction text generalizing run with
  | nil => exact readBasic_quote rest
  | cons character text induction =>
      by_cases quote : character = '"'
      · subst character
        have escaped : escapeText false run ('"' :: text) =
            '\\' :: '"' :: escapeText false 0 text := by
          simp [escapeText, quoteLimit]
        have means : unescape? '"' = some '"' := rfl
        rw [escaped, List.cons_append, List.cons_append, readBasic_escape means,
          induction 0]
        rfl
      · rw [escapeText, if_neg quote, List.append_assoc,
          readBasic_escapeCharacter quote, induction 0]
        rfl

/-- Up to two marks behind three closing ones belong to the text. -/
theorem closing_replicate {mark : Char} {count : Nat} (few : count ≤ 2)
    {rest : List Char} (ended : ∀ character ∈ rest.head?, character ≠ mark) :
    closing mark (List.replicate count mark ++ rest) =
      (List.replicate count mark, rest) := by
  cases rest with
  | nil => interval_cases count <;> simp [closing]
  | cons next rest =>
      have differs : next ≠ mark := ended next rfl
      interval_cases count <;> simp [closing, differs]

/-- A character other than a quote is written without a quote in front. -/
theorem escapeCharacter_head {character : Char} (noQuote : character ≠ '"')
    (lines : Bool) :
    ∃ first others, escapeCharacter lines character = first :: others ∧
      first ≠ '"' := by
  unfold escapeCharacter
  split
  · exact ⟨_, _, rfl, by decide⟩
  · split
    · cases lines <;> exact ⟨_, _, rfl, by decide⟩
    · iterate 5
        split
        · exact ⟨_, _, rfl, by decide⟩
      exact ⟨_, _, rfl, noQuote⟩

/-- Where no further quote may stand, every character is written without a quote in
front. -/
theorem escapeText_head {character : Char} {lines : Bool} {run : Nat}
    (guarded : character ≠ '"' ∨ quoteLimit lines ≤ run) (text : List Char) :
    ∃ first others, escapeText lines run (character :: text) = first :: others ∧
      first ≠ '"' := by
  by_cases quote : character = '"'
  · subst character
    have full : ¬ run < quoteLimit lines := by
      rcases guarded with different | full
      · exact absurd rfl different
      · exact Nat.not_lt.mpr full
    exact ⟨_, _, by rw [escapeText, if_pos rfl, if_neg full], by decide⟩
  · obtain ⟨first, others, written, noQuote⟩ := escapeCharacter_head quote lines
    exact ⟨first, others ++ escapeText lines 0 text,
      by rw [escapeText, if_neg quote, written, List.cons_append], noQuote⟩

/-- Two quotes behind a quote of the text are closing ones, with at most one quote
of the text in front of them. -/
theorem escapeText_two_quotes {text rest others : List Char} {run : Nat}
    (positive : 0 < run)
    (starts : escapeText true run text ++ '"' :: '"' :: '"' :: rest =
      '"' :: '"' :: others) :
    ∃ count ≤ 1, text = List.replicate count '"' ∧
      escapeText true run text = List.replicate count '"' := by
  cases text with
  | nil => exact ⟨0, by simp, rfl, rfl⟩
  | cons character text =>
      by_cases guarded : character ≠ '"' ∨ quoteLimit true ≤ run
      · obtain ⟨first, written, opened, noQuote⟩ := escapeText_head guarded text
        rw [opened] at starts
        exact absurd (List.cons.inj starts).1 noQuote
      · simp only [not_or, not_not, Nat.not_le] at guarded
        obtain ⟨rfl, room⟩ := guarded
        have opened : escapeText true run ('"' :: text) =
            '"' :: escapeText true (run + 1) text := by
          rw [escapeText, if_pos rfl, if_pos room]
        cases text with
        | nil => exact ⟨1, by simp, rfl, opened⟩
        | cons next text =>
            have full : quoteLimit true ≤ run + 1 := Nat.succ_le_succ positive
            obtain ⟨first, written, openedNext, noQuote⟩ :=
              escapeText_head (.inr full : next ≠ '"' ∨ _) text
            rw [opened, openedNext] at starts
            exact absurd (List.cons.inj (List.cons.inj starts).2).1 noQuote

theorem readBasic_escapeText_lines {rest : List Char}
    (ended : ∀ character ∈ rest.head?, character ≠ '"') (text : List Char)
    (run : Nat) :
    readBasic true .text (escapeText true run text ++ '"' :: '"' :: '"' :: rest) =
      some (text, rest) := by
  induction text generalizing run with
  | nil =>
      rw [escapeText, List.nil_append, readBasic_three_quotes]
      exact congrArg some (closing_replicate (Nat.zero_le 2) ended)
  | cons character text induction =>
      by_cases quote : character = '"'
      · subst character
        by_cases room : run < quoteLimit true
        · rw [escapeText, if_pos rfl, if_pos room, List.cons_append]
          by_cases closes : ∃ others,
              escapeText true (run + 1) text ++ '"' :: '"' :: '"' :: rest =
                '"' :: '"' :: others
          · obtain ⟨others, starts⟩ := closes
            obtain ⟨count, single, rfl, written⟩ :=
              escapeText_two_quotes (Nat.succ_pos run) starts
            have few : count + 1 ≤ 2 := by omega
            have regrouped : '"' :: (List.replicate count '"' ++
                '"' :: '"' :: '"' :: rest) =
                '"' :: '"' :: '"' :: (List.replicate (count + 1) '"' ++ rest) := by
              interval_cases count <;> rfl
            rw [written, regrouped, readBasic_three_quotes,
              closing_replicate few ended]
            rfl
          · rw [readBasic_lone_quote (not_exists.mp closes), induction (run + 1)]
            rfl
        · have means : unescape? '"' = some '"' := rfl
          rw [escapeText, if_pos rfl, if_neg room, List.cons_append, List.cons_append,
            readBasic_escape means, induction 0]
          rfl
      · rw [escapeText, if_neg quote, List.append_assoc,
          readBasic_escapeCharacter quote, induction 0]
        rfl

/-! ### Characters of escaped texts -/

theorem upperHexDigit_visible {value : Nat} (digit : value < 16) :
    32 ≤ (Text.upperHexDigit value).toNat := by
  interval_cases value <;> decide

private theorem visible_of_pair {written letter : Char} (shown : 32 ≤ letter.toNat)
    (member : written ∈ ['\\', letter]) : 32 ≤ written.toNat := by
  simp only [List.mem_cons, List.not_mem_nil, or_false] at member
  rcases member with rfl | rfl
  · decide
  · exact shown

theorem mem_escapeCharacter {written character : Char} {lines : Bool}
    (member : written ∈ escapeCharacter lines character) :
    32 ≤ written.toNat ∨ (written = '\n' ∧ character = '\n') := by
  unfold escapeCharacter at member
  split at member
  · exact .inl (visible_of_pair (by decide) member)
  · split at member
    · rename_i lineFeed
      cases lines with
      | false => exact .inl (visible_of_pair (by decide) member)
      | true => exact .inr ⟨List.mem_singleton.mp member, lineFeed⟩
    · iterate 4
        split at member
        · exact .inl (visible_of_pair (by decide) member)
      split at member
      · rw [upperHex_four] at member
        have shown (value : Nat) :=
          upperHexDigit_visible (Nat.mod_lt value (by decide : 16 > 0))
        simp only [List.mem_cons, List.not_mem_nil, or_false] at member
        rcases member with rfl | rfl | rfl | rfl | rfl | rfl
        · exact .inl (by decide)
        · exact .inl (by decide)
        all_goals exact .inl (shown _)
      · rename_i shown
        rw [List.mem_singleton] at member
        subst member
        exact .inl (by omega)

/-- A written text holds no control characters besides the line feeds that it has
on its own. -/
theorem mem_escapeText {written : Char} {lines : Bool} {run : Nat} {text : List Char}
    (member : written ∈ escapeText lines run text) :
    32 ≤ written.toNat ∨ (written = '\n' ∧ '\n' ∈ text) := by
  induction text generalizing run with
  | nil => simp [escapeText] at member
  | cons character text induction =>
      have later {other : Nat} (inRest : written ∈ escapeText lines other text) :
          32 ≤ written.toNat ∨ (written = '\n' ∧ '\n' ∈ character :: text) := by
        rcases induction inRest with shown | ⟨lineFeed, inText⟩
        · exact .inl shown
        · exact .inr ⟨lineFeed, List.mem_cons_of_mem _ inText⟩
      by_cases quote : character = '"'
      · subst character
        rw [escapeText, if_pos rfl] at member
        split at member
        · rcases List.mem_cons.mp member with rfl | inRest
          · exact .inl (by decide)
          · exact later inRest
        · rcases List.mem_cons.mp member with rfl | inRest
          · exact .inl (by decide)
          · rcases List.mem_cons.mp inRest with rfl | inRest
            · exact .inl (by decide)
            · exact later inRest
      · rw [escapeText, if_neg quote, List.mem_append] at member
        rcases member with here | inRest
        · rcases mem_escapeCharacter here with shown | ⟨lineFeed, rfl⟩
          · exact .inl shown
          · exact .inr ⟨lineFeed, List.mem_cons_self⟩
        · exact later inRest

/-! ## Single quotes -/

theorem le_longestRun (mark : Char) (run : Nat) (text : List Char) :
    run ≤ longestRun mark run text := by
  induction text generalizing run with
  | nil => exact Nat.le_refl run
  | cons character text induction =>
      rw [longestRun]
      split
      · exact Nat.le_of_succ_le (induction (run + 1))
      · exact Nat.le_max_left _ _

theorem longestRun_le_longestRun {mark : Char} {run other : Nat} (fewer : run ≤ other)
    (text : List Char) : longestRun mark run text ≤ longestRun mark other text := by
  induction text generalizing run other with
  | nil => exact fewer
  | cons character text induction =>
      rw [longestRun, longestRun]
      split
      · exact induction (Nat.succ_le_succ fewer)
      · exact Nat.max_le.mpr
          ⟨Nat.le_trans fewer (Nat.le_max_left _ _), Nat.le_max_right _ _⟩

/-- The rest of a text has no longer run than the text. -/
theorem longestRun_tail (mark character : Char) (text : List Char) :
    longestRun mark 0 text ≤ longestRun mark 0 (character :: text) := by
  rw [longestRun.eq_2]
  split
  · exact longestRun_le_longestRun (Nat.zero_le 1) text
  · exact Nat.le_max_right _ _

theorem not_mem_of_longestRun_eq_zero {mark : Char} {text : List Char}
    (none : longestRun mark 0 text = 0) : mark ∉ text := by
  induction text with
  | nil => simp
  | cons character text induction =>
      have noLonger := longestRun_tail mark character text
      have tailNone : longestRun mark 0 text = 0 :=
        Nat.le_zero.mp (Nat.le_trans noLonger (Nat.le_of_eq none))
      have differs : mark ≠ character := by
        intro same
        rw [longestRun, if_pos same.symm] at none
        have atLeastOne := le_longestRun mark (0 + 1) text
        omega
      simp [differs, induction tailNone]

theorem readLiteral_line {text : List Char}
    (shown : ∀ character ∈ text, isTextCharacter character = true)
    (noQuote : '\'' ∉ text) (rest : List Char) :
    readLiteral false (text ++ '\'' :: rest) = some (text, rest) := by
  induction text with
  | nil => simp [readLiteral]
  | cons character text induction =>
      have differs : character ≠ '\'' := by
        rintro rfl
        exact noQuote List.mem_cons_self
      have characterShown := shown character List.mem_cons_self
      have textRead := induction
        (fun other member => shown other (List.mem_cons_of_mem _ member))
        (fun member => noQuote (List.mem_cons_of_mem _ member))
      simp [readLiteral, differs, characterShown, textRead, prepend]

theorem readLiteral_lone_quote {rest : List Char}
    (alone : ∀ others, rest ≠ '\'' :: '\'' :: others) :
    readLiteral true ('\'' :: rest) = prepend '\'' (readLiteral true rest) := by
  simp only [readLiteral, if_true]

/-- Without three quotes in a row, two quotes behind a quote of the text are closing
ones, with at most one quote of the text in front of them. -/
theorem literal_two_quotes {text rest others : List Char}
    (few : longestRun '\'' 1 text ≤ 2)
    (starts : text ++ '\'' :: '\'' :: '\'' :: rest = '\'' :: '\'' :: others) :
    ∃ count ≤ 1, text = List.replicate count '\'' := by
  match text with
  | [] => exact ⟨0, by simp, rfl⟩
  | [only] =>
      refine ⟨1, by simp, ?_⟩
      rw [(List.cons.inj starts).1]
      rfl
  | first :: second :: text =>
      have firstQuote := (List.cons.inj starts).1
      have secondQuote := (List.cons.inj (List.cons.inj starts).2).1
      have atLeastThree := le_longestRun '\'' (1 + 1 + 1) text
      rw [longestRun, if_pos firstQuote, longestRun, if_pos secondQuote] at few
      omega

theorem readLiteral_lines {rest : List Char}
    (ended : ∀ character ∈ rest.head?, character ≠ '\'') {text : List Char}
    (shown : ∀ character ∈ text, isTextCharacter character = true ∨ character = '\n')
    (few : longestRun '\'' 0 text ≤ 2) :
    readLiteral true (text ++ '\'' :: '\'' :: '\'' :: rest) = some (text, rest) := by
  induction text with
  | nil =>
      have closed := closing_replicate (Nat.zero_le 2) ended
      simpa [readLiteral] using closed
  | cons character text induction =>
      have textRead := induction
        (fun other member => shown other (List.mem_cons_of_mem _ member))
        (Nat.le_trans (longestRun_tail _ character text) few)
      by_cases quote : character = '\''
      · subst character
        rw [longestRun, if_pos rfl] at few
        by_cases closes : ∃ others,
            text ++ '\'' :: '\'' :: '\'' :: rest = '\'' :: '\'' :: others
        · obtain ⟨others, starts⟩ := closes
          obtain ⟨count, single, rfl⟩ := literal_two_quotes few starts
          have closed := closing_replicate (Nat.succ_le_succ single) ended
          interval_cases count
          · simpa [readLiteral] using closed
          · simpa [readLiteral] using closed
        · rw [List.cons_append, readLiteral_lone_quote (not_exists.mp closes), textRead]
          rfl
      · have characterShown := shown character List.mem_cons_self
        simp [readLiteral, quote, characterShown, textRead, prepend]

/-! ## All styles -/

theorem styleOf_literal {text : List Char} (literal : styleOf text = .literal) :
    text.any needsEscape = false ∧ '\'' ∉ text ∧ '\n' ∉ text := by
  unfold styleOf at literal
  grind [not_mem_of_longestRun_eq_zero, List.contains_iff_mem]

theorem styleOf_multiLiteral {text : List Char} (literal : styleOf text = .multiLiteral) :
    text.any needsEscape = false ∧ longestRun '\'' 0 text ≤ 2 := by
  unfold styleOf at literal
  grind

theorem isTextCharacter_of_not_needsEscape {character : Char}
    (plain : needsEscape character = false) :
    isTextCharacter character = true ∨ character = '\n' := by
  simp only [needsEscape, Bool.or_eq_false_iff, Bool.and_eq_false_iff,
    decide_eq_false_iff_not, bne_eq_false_iff_eq, beq_eq_false_iff_ne] at plain
  simp only [isTextCharacter, Bool.or_eq_true, Bool.and_eq_true, beq_iff_eq,
    decide_eq_true_eq, bne_iff_ne]
  obtain ⟨(large | tab) | lineFeed, noDelete⟩ := plain
  · exact .inl (.inr ⟨by omega, noDelete⟩)
  · exact .inl (.inl tab)
  · exact .inr lineFeed

/-- The line feed that opens a text of several lines is not read as its own. -/
theorem skipOpening_opening {text body : List Char} {mark : Char}
    (different : mark ≠ '\n') (ownLines : '\n' ∈ body → '\n' ∈ text)
    (rest : List Char) :
    skipOpening (opening text ++ (body ++ mark :: rest)) = body ++ mark :: rest := by
  by_cases lines : '\n' ∈ text
  · have opened : opening text = ['\n'] := by simp [opening, lines]
    rw [opened]
    rfl
  · have opened : opening text = [] := by simp [opening, lines]
    rw [opened, List.nil_append]
    cases body with
    | nil =>
        rw [List.nil_append]
        unfold skipOpening
        split
        · rename_i lineFeed
          exact absurd (List.cons.inj lineFeed).1 different
        · rfl
    | cons first body =>
        have noLineFeed : first ≠ '\n' := by
          rintro rfl
          exact lines (ownLines List.mem_cons_self)
        rw [List.cons_append]
        unfold skipOpening
        split
        · rename_i lineFeed
          exact absurd (List.cons.inj lineFeed).1 noLineFeed
        · rfl

theorem decode_escapeText_line (text : List Char) {rest : List Char}
    (unquoted : Unquoted rest) :
    decode ('"' :: (escapeText false 0 text ++ '"' :: rest)) = some (text, rest) := by
  have read := readBasic_escapeText_line text 0 rest
  have oneLine : decode ('"' :: (escapeText false 0 text ++ '"' :: rest)) =
      decodeLine ('"' :: (escapeText false 0 text ++ '"' :: rest)) := by
    unfold decode
    split
    · rename_i others opened
      have inside := (List.cons.inj opened).2
      cases text with
      | nil =>
          obtain ⟨-, follow⟩ := List.cons.inj inside
          rw [follow] at unquoted
          exact absurd rfl (unquoted '"' rfl).1
      | cons character text =>
          have full : quoteLimit false ≤ 0 := Nat.le_refl 0
          obtain ⟨first, written, begun, noQuote⟩ :=
            escapeText_head (.inr full : character ≠ '"' ∨ _) text
          rw [begun] at inside
          exact absurd (List.cons.inj inside).1 noQuote
    · rename_i others opened
      exact absurd (List.cons.inj opened).1 (by decide)
    · rfl
  rw [oneLine, decodeLine, read]

theorem decode_literal_line {text : List Char} (plain : text.any needsEscape = false)
    (noQuote : '\'' ∉ text) (noLines : '\n' ∉ text) {rest : List Char}
    (unquoted : Unquoted rest) :
    decode ('\'' :: (text ++ '\'' :: rest)) = some (text, rest) := by
  have shown (character : Char) (member : character ∈ text) :
      isTextCharacter character = true := by
    have characterPlain := List.any_eq_false.mp plain character member
    rcases isTextCharacter_of_not_needsEscape (Bool.not_eq_true _ ▸ characterPlain)
      with shown | rfl
    · exact shown
    · exact absurd member noLines
  have read := readLiteral_line shown noQuote rest
  have oneLine : decode ('\'' :: (text ++ '\'' :: rest)) =
      decodeLine ('\'' :: (text ++ '\'' :: rest)) := by
    unfold decode
    split
    · rename_i others opened
      exact absurd (List.cons.inj opened).1 (by decide)
    · rename_i others opened
      have inside := (List.cons.inj opened).2
      cases text with
      | nil =>
          obtain ⟨-, follow⟩ := List.cons.inj inside
          rw [follow] at unquoted
          exact absurd rfl (unquoted '\'' rfl).2
      | cons character text =>
          obtain ⟨rfl, -⟩ := List.cons.inj inside
          exact absurd List.mem_cons_self noQuote
    · rfl
  rw [oneLine, decodeLine, read]

theorem decode_escapeText_lines (text : List Char) {rest : List Char}
    (unquoted : Unquoted rest) :
    decode ('"' :: '"' :: '"' :: (opening text ++ (escapeText true 0 text ++
      '"' :: '"' :: '"' :: rest))) = some (text, rest) := by
  have ownLines (member : '\n' ∈ escapeText true 0 text) : '\n' ∈ text := by
    rcases mem_escapeText member with shown | ⟨-, own⟩
    · exact absurd shown (by decide)
    · exact own
  have opened := skipOpening_opening (by decide : '"' ≠ '\n') ownLines
    ('"' :: '"' :: rest)
  have ended (character : Char) (head : character ∈ rest.head?) : character ≠ '"' :=
    (unquoted character head).1
  rw [decode, opened, readBasic_escapeText_lines ended text 0]

theorem decode_literal_lines {text : List Char} (plain : text.any needsEscape = false)
    (few : longestRun '\'' 0 text ≤ 2) {rest : List Char} (unquoted : Unquoted rest) :
    decode ('\'' :: '\'' :: '\'' :: (opening text ++ (text ++
      '\'' :: '\'' :: '\'' :: rest))) = some (text, rest) := by
  have shown (character : Char) (member : character ∈ text) :
      isTextCharacter character = true ∨ character = '\n' := by
    have characterPlain := List.any_eq_false.mp plain character member
    exact isTextCharacter_of_not_needsEscape (Bool.not_eq_true _ ▸ characterPlain)
  have opened := skipOpening_opening (by decide : '\'' ≠ '\n') (id : '\n' ∈ text → _)
    ('\'' :: '\'' :: rest)
  have ended (character : Char) (head : character ∈ rest.head?) : character ≠ '\'' :=
    (unquoted character head).2
  rw [decode, opened, readLiteral_lines ended shown few]

/-- A text in quotes is read back. -/
theorem decode_encode (text : List Char) {rest : List Char} (unquoted : Unquoted rest) :
    decode (encode text ++ rest) = some (text, rest) := by
  unfold encode
  split
  · simpa using decode_escapeText_line text unquoted
  · rename_i literal
    obtain ⟨plain, noQuote, noLines⟩ := styleOf_literal literal
    simpa using decode_literal_line plain noQuote noLines unquoted
  · simpa using decode_escapeText_lines text unquoted
  · rename_i literal
    obtain ⟨plain, few⟩ := styleOf_multiLiteral literal
    simpa using decode_literal_lines plain few unquoted

/-- A text in quotes begins with a quote. -/
theorem encode_head (text : List Char) :
    ∃ mark others, encode text = mark :: others ∧ (mark = '"' ∨ mark = '\'') := by
  unfold encode
  split
  · exact ⟨_, _, rfl, .inl rfl⟩
  · exact ⟨_, _, rfl, .inr rfl⟩
  · exact ⟨_, _, rfl, .inl rfl⟩
  · exact ⟨_, _, rfl, .inr rfl⟩

theorem mem_opening {character : Char} {text : List Char}
    (member : character ∈ opening text) : character = '\n' := by
  unfold opening at member
  split at member
  · exact List.mem_singleton.mp member
  · exact absurd member List.not_mem_nil

/-- A text in quotes has no line ends but line feeds. -/
theorem carriageReturn_not_mem_encode (text : List Char) : '\r' ∉ encode text := by
  have escaped (lines : Bool) : '\r' ∉ escapeText lines 0 text := by
    intro member
    rcases mem_escapeText member with shown | ⟨different, -⟩
    · exact absurd shown (by decide)
    · exact absurd different (by decide)
  have opened : '\r' ∉ opening text :=
    fun member => absurd (mem_opening member) (by decide)
  have plainText (plain : text.any needsEscape = false) : '\r' ∉ text :=
    fun member => absurd rfl (List.any_eq_false.mp plain '\r' member)
  unfold encode
  split
  · simp [escaped false]
  · rename_i literal
    simp [plainText (styleOf_literal literal).1]
  · simp [escaped true, opened]
  · rename_i literal
    simp [plainText (styleOf_multiLiteral literal).1, opened]

end NodeAdmin.Toml.Quoted
