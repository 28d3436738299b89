import NodeAdmin.Config.Storage
import NodeAdmin.Proofs.Toml.QuotedRoundTrip

/-!
# Configurations read back

A configuration that is written to a file is the one that is loaded from it, whatever
its texts are.
-/

namespace NodeAdmin

namespace Toml

/-! ## Line ends, keys and values -/

theorem unifyLineEnds?_of_not_mem {text : List Char} (noReturn : '\r' ∉ text) :
    unifyLineEnds? text = some text := by
  induction text with
  | nil => rfl
  | cons character text induction =>
      have differs : character ≠ '\r' := by
        rintro rfl
        exact noReturn List.mem_cons_self
      have textSame := induction fun member => noReturn (List.mem_cons_of_mem _ member)
      simp [unifyLineEnds?, differs, textSame]

/-- Keys that are written without quotes. -/
structure IsWord (key : String) : Prop where
  nonempty : key ≠ ""
  shown : key.toList.all isKeyCharacter = true

theorem not_isSpace_of_isKeyCharacter {character : Char}
    (shown : isKeyCharacter character = true) : isSpace character = false := by
  by_contra blank
  simp only [isSpace, Bool.or_eq_true, beq_iff_eq, Bool.not_eq_false] at blank
  rcases blank with rfl | rfl
  · exact absurd shown (by decide)
  · exact absurd shown (by decide)

/-- A word begins with a key character. -/
theorem IsWord.head {key : String} (word : IsWord key) :
    ∃ first others, key.toList = first :: others ∧ isKeyCharacter first = true := by
  cases spelled : key.toList with
  | nil => exact absurd (String.toList_eq_nil_iff.mp spelled) word.nonempty
  | cons first others =>
      refine ⟨first, others, rfl, ?_⟩
      exact List.all_eq_true.mp word.shown first (by rw [spelled]; exact List.mem_cons_self)

theorem keyPart?_word {key : String} (word : IsWord key) {rest : List Char}
    (ended : ∀ character ∈ rest.head?, isKeyCharacter character = false) :
    keyPart? (key.toList ++ rest) = some (key, rest) := by
  have taken : (key.toList ++ rest).takeWhile isKeyCharacter = key.toList := by
    rw [List.takeWhile_append_of_pos (List.all_eq_true.mp word.shown)]
    cases rest with
    | nil => simp
    | cons next rest => simp [ended next rfl]
  have dropped : (key.toList ++ rest).dropWhile isKeyCharacter = rest := by
    rw [List.dropWhile_append_of_pos (List.all_eq_true.mp word.shown)]
    cases rest with
    | nil => rfl
    | cons next rest => simp [ended next rfl]
  obtain ⟨first, others, spelled, shown⟩ := word.head
  have noQuote : ¬ (first = '"' ∨ first = '\'') := by
    rintro (rfl | rfl)
    · exact absurd shown (by decide)
    · exact absurd shown (by decide)
  rw [spelled, List.cons_append] at taken dropped ⊢
  rw [keyPart?, if_neg noQuote, if_pos shown, taken, dropped, ← spelled,
    String.ofList_toList]

/-- A word is a key on its own unless a point follows it. -/
theorem key?_word {key : String} (word : IsWord key) {rest : List Char}
    (ended : ∀ character ∈ rest.head?, isKeyCharacter character = false)
    (single : ∀ others, skipSpaces rest ≠ '.' :: others) :
    key? (key.toList ++ rest) = some ([], key, skipSpaces rest) := by
  obtain ⟨first, others, spelled, shown⟩ := word.head
  have notSkipped : skipSpaces (key.toList ++ rest) = key.toList ++ rest := by
    rw [spelled, List.cons_append, skipSpaces]
    exact List.dropWhile_cons_of_neg (by simp [not_isSpace_of_isKeyCharacter shown])
  have parts : keyParts? ((key.toList ++ rest).length + 1) (key.toList ++ rest) =
      some ([key], skipSpaces rest) := by
    rw [keyParts?, notSkipped, keyPart?_word word ended]
    simp only [Option.bind_eq_bind, Option.bind_some]
  rw [key?, parts]
  rfl

theorem value?_encode (value : String) {rest : List Char}
    (unquoted : Quoted.Unquoted rest) :
    value? (Quoted.encode value.toList ++ rest) = some (.string value, rest) := by
  obtain ⟨mark, others, begun, quote⟩ := Quoted.encode_head value.toList
  have read := Quoted.decode_encode value.toList unquoted
  rw [begun, List.cons_append] at read
  rw [begun, List.cons_append, value?, valueStep?]
  · simp [quote, read]
  · rintro rfl
    simp at quote
  · rintro rfl
    simp at quote

/-! ## Lines -/

theorem lines?_end (fuel : Nat) (draft : Draft) :
    lines? (fuel + 1) draft [] = some draft := rfl

theorem lines?_empty (fuel : Nat) (draft : Draft) (rest : List Char) :
    lines? (fuel + 1) draft ('\n' :: rest) = lines? fuel draft rest := rfl

/-- A line that begins with something else than a blank. -/
theorem lines?_line {fuel : Nat} {draft : Draft} {first : Char} {text : List Char}
    (shown : isSpace first = false) :
    lines? (fuel + 1) draft (first :: text) =
      (line? draft (first :: text)).bind fun read => lines? fuel read.1 read.2 := by
  have notSkipped : skipSpaces (first :: text) = first :: text :=
    List.dropWhile_cons_of_neg (by simp [shown])
  rw [lines?, notSkipped]
  rfl

theorem line?_header {first : Char} (different : first ≠ '[') (draft : Draft)
    (rest : List Char) :
    line? draft ('[' :: first :: rest) = header? false draft (first :: rest) := by
  simp [line?, different]

theorem line?_entry {first : Char} (shown : isKeyCharacter first = true)
    (draft : Draft) (rest : List Char) :
    line? draft (first :: rest) = entry? draft (first :: rest) := by
  have noBracket : first ≠ '[' := by
    rintro rfl
    exact absurd shown (by decide)
  have noGap : ¬ (first = '#' ∨ first = '\n') := by
    rintro (rfl | rfl)
    · exact absurd shown (by decide)
    · exact absurd shown (by decide)
  simp [line?, noBracket, noGap]

theorem lines?_header {draft next : Draft} {key : String} (word : IsWord key)
    (started : draft.start? false [] key = some next) (fuel : Nat) (rest : List Char) :
    lines? (fuel + 1) draft ('[' :: (key.toList ++ ']' :: '\n' :: rest)) =
      lines? fuel next rest := by
  have ended : ∀ character ∈ (']' :: '\n' :: rest).head?,
      isKeyCharacter character = false := by
    rintro character ⟨rfl⟩
    decide
  have single : ∀ others, skipSpaces (']' :: '\n' :: rest) ≠ '.' :: others := by
    intro others point
    exact absurd (List.cons.inj point).1 (by decide)
  have read := key?_word word ended single
  have header : line? draft ('[' :: (key.toList ++ ']' :: '\n' :: rest)) =
      header? false draft (key.toList ++ ']' :: '\n' :: rest) := by
    obtain ⟨first, others, spelled, shown⟩ := word.head
    have noBracket : first ≠ '[' := by
      rintro rfl
      exact absurd shown (by decide)
    rw [spelled, List.cons_append, line?_header noBracket]
  have closed : after? ']' (skipSpaces (']' :: '\n' :: rest)) = some ('\n' :: rest) := rfl
  have finished : finishLine? ('\n' :: rest) = some rest := rfl
  rw [lines?_line rfl, header, header?, read]
  simp only [Option.bind_eq_bind, Option.bind_some, closed, finished, started,
    Bool.false_eq_true, if_false]

theorem lines?_entryLine {draft next : Draft} {key value : String} (word : IsWord key)
    (added : draft.add? [] key (.string value) = some next) (fuel : Nat)
    (rest : List Char) :
    lines? (fuel + 1) draft (Config.entryLine key value ++ rest) =
      lines? fuel next rest := by
  obtain ⟨mark, others, begun, quote⟩ := Quoted.encode_head value.toList
  have blankMark : isSpace mark = false := by
    rcases quote with rfl | rfl
    · rfl
    · rfl
  have line : Config.entryLine key value ++ rest =
      key.toList ++ ' ' :: '=' :: ' ' :: (Quoted.encode value.toList ++ '\n' :: rest) := by
    simp [Config.entryLine]
  have ended : ∀ character ∈ (' ' :: '=' :: ' ' ::
      (Quoted.encode value.toList ++ '\n' :: rest)).head?,
      isKeyCharacter character = false := by
    rintro character ⟨rfl⟩
    decide
  have single : ∀ others, skipSpaces (' ' :: '=' :: ' ' ::
      (Quoted.encode value.toList ++ '\n' :: rest)) ≠ '.' :: others := by
    intro others point
    exact absurd (List.cons.inj point).1 (by decide)
  have keyRead := key?_word word ended single
  have unquoted : Quoted.Unquoted ('\n' :: rest) := by
    rintro character ⟨rfl⟩
    decide
  have valueRead := value?_encode value unquoted
  have valueBegun : skipSpaces (' ' :: (Quoted.encode value.toList ++ '\n' :: rest)) =
      Quoted.encode value.toList ++ '\n' :: rest := by
    have skipped : skipSpaces (mark :: (others ++ '\n' :: rest)) =
        mark :: (others ++ '\n' :: rest) :=
      List.dropWhile_cons_of_neg (by simp [blankMark])
    rw [begun, List.cons_append]
    exact skipped
  have equals : after? '=' (skipSpaces (' ' :: '=' :: ' ' ::
      (Quoted.encode value.toList ++ '\n' :: rest))) =
      some (' ' :: (Quoted.encode value.toList ++ '\n' :: rest)) := rfl
  have finished : finishLine? ('\n' :: rest) = some rest := rfl
  obtain ⟨first, others, spelled, shown⟩ := word.head
  have entry : lines? (fuel + 1) draft (Config.entryLine key value ++ rest) =
      entry? draft (Config.entryLine key value ++ rest) >>= fun read =>
        lines? fuel read.1 read.2 := by
    rw [line, spelled, List.cons_append,
      lines?_line (not_isSpace_of_isKeyCharacter shown), line?_entry shown]
    rfl
  rw [entry, line, entry?, keyRead]
  simp only [Option.bind_eq_bind, Option.bind_some, equals, valueBegun, valueRead,
    finished, added]

end Toml

namespace Config

/-! ## Documents -/

theorem carriageReturn_not_mem_entryLine {key : String} (plain : '\r' ∉ key.toList)
    (value : String) : '\r' ∉ entryLine key value := by
  simp [entryLine, plain, Toml.Quoted.carriageReturn_not_mem_encode]

/-- The entries of the document of a configuration. -/
def entries (config : Config) : Toml.Entries :=
  let token := (config.node.token.map fun token => [("token", Toml.string token)]).getD []
  [("settings", .table .headed
      [("default_format", .string config.settings.defaultFormat),
        ("color", .string config.settings.colour)]),
    ("node", .table .headed (("base_url", .string config.node.baseUrl) :: token))]

theorem toText_toList (config : Config) :
    config.toText.toList =
      '[' :: ("settings".toList ++ ']' :: '\n' ::
        (entryLine "default_format" config.settings.defaultFormat ++
          (entryLine "color" config.settings.colour ++
            '\n' :: '[' :: ("node".toList ++ ']' :: '\n' ::
              (entryLine "base_url" config.node.baseUrl ++
                (config.node.token.map (entryLine "token")).getD []))))) := by
  have opened : "[settings]\n".toList = '[' :: ("settings".toList ++ [']', '\n']) := rfl
  have node : "\n[node]\n".toList = '\n' :: '[' :: ("node".toList ++ [']', '\n']) := rfl
  unfold toText
  rw [String.toList_ofList, opened, node]
  simp only [List.cons_append, List.append_assoc, List.nil_append]
  cases config.node.token with
  | none => rfl
  | some token => rfl

theorem lines?_toText (fuel : Nat) (config : Config) :
    Toml.lines? (fuel + 8) .empty config.toText.toList =
      some ⟨⟨.headed, config.entries⟩, ["node"]⟩ := by
  have settings : Toml.IsWord "settings" := ⟨by decide, by decide⟩
  have format : Toml.IsWord "default_format" := ⟨by decide, by decide⟩
  have colour : Toml.IsWord "color" := ⟨by decide, by decide⟩
  have node : Toml.IsWord "node" := ⟨by decide, by decide⟩
  have baseUrl : Toml.IsWord "base_url" := ⟨by decide, by decide⟩
  have token : Toml.IsWord "token" := ⟨by decide, by decide⟩
  rw [toText_toList, Toml.lines?_header settings rfl, Toml.lines?_entryLine format rfl,
    Toml.lines?_entryLine colour rfl, Toml.lines?_empty, Toml.lines?_header node rfl]
  cases known : config.node.token with
  | none =>
      rw [Toml.lines?_entryLine baseUrl rfl, Option.map_none, Option.getD_none,
        Toml.lines?_end, entries, known]
      rfl
  | some value =>
      have ownLine : entryLine "token" value = entryLine "token" value ++ [] :=
        (List.append_nil _).symm
      rw [Toml.lines?_entryLine baseUrl rfl, Option.map_some, Option.getD_some, ownLine,
        Toml.lines?_entryLine token rfl, Toml.lines?_end, entries, known]
      rfl

theorem document?_toText (config : Config) :
    Toml.document? config.toText = some config.entries := by
  have noReturn : '\r' ∉ config.toText.toList := by
    rw [toText_toList]
    cases config.node.token <;>
      simp [carriageReturn_not_mem_entryLine]
  have noMark : Toml.skipMark config.toText.toList = config.toText.toList := by
    rw [toText_toList]
    rfl
  have longEnough : 7 ≤ config.toText.toList.length := by
    rw [toText_toList]
    simp only [List.length_cons, List.length_append]
    have settings : "settings".toList.length = 8 := rfl
    omega
  obtain ⟨fuel, length⟩ := Nat.exists_eq_add_of_le' longEnough
  rw [Toml.document?, noMark, Toml.unifyLineEnds?_of_not_mem noReturn]
  simp only [Option.bind_eq_bind, Option.bind_some, length, lines?_toText fuel config]

/-- The document of a configuration is read as the configuration. -/
theorem ofText?_toText (config : Config) : ofText? config.toText = some config := by
  rw [ofText?, document?_toText]
  obtain ⟨settings, ⟨baseUrl, token⟩⟩ := config
  cases token with
  | none => rfl
  | some token => rfl

end Config

namespace StoredFile

theorem load_toText (config : Config) : (StoredFile.text config.toText).load = .ok config := by
  rw [load, Config.ofText?_toText]

section

variable {writing : WriteOutcome} {config : Config} {file saved : StoredFile}

/-- A configuration is written just where the system takes it and a file can stand. -/
theorem save_eq_ok_iff :
    file.save writing config = .ok saved ↔
      writing = .carriedOut ∧ file ≠ .blocked ∧ file ≠ .directory ∧
        saved = .text config.toText := by
  cases writing with
  | refused problem => simp [save]
  | carriedOut =>
      cases file with
      | blocked | directory => simp [save]
      | absent | text _ | bytes _ => simp [save, eq_comm]

/-- A configuration that could be written is loaded again. -/
theorem load_save (written : file.save writing config = .ok saved) :
    saved.load = .ok config := by
  obtain ⟨-, -, -, rfl⟩ := save_eq_ok_iff.mp written
  exact load_toText config

end

end StoredFile

end NodeAdmin
