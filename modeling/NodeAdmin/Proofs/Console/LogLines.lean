import NodeAdmin.Proofs.Console.Colours

/-!
# Lines of logs

The lines of a shown log are those of its entries, one entry after the other.  The strings of an
entry are shown as they are, so that every line feed in one of them starts another line.
-/

namespace NodeAdmin

open Json Text

/-! ## Line feeds -/

def Text.lineFeeds (text : String) : Nat := text.toList.count '\n'

namespace Text

theorem lineFeeds_append (front back : String) :
    lineFeeds (front ++ back) = lineFeeds front + lineFeeds back := by
  rw [lineFeeds, String.toList_append, List.count_append]
  rfl

theorem lineFeeds_eq_zero_iff {text : String} : lineFeeds text = 0 ↔ '\n' ∉ text.toList :=
  List.count_eq_zero

theorem IsPrintable.lineFeeds_eq {text : String} (printable : IsPrintable text.toList) :
    lineFeeds text = 0 := lineFeeds_eq_zero_iff.mpr (printable.not_mem (by decide))

theorem lineFeeds_join {separator : String} (whole : lineFeeds separator = 0)
    (texts : List String) : lineFeeds (join separator texts) = (texts.map lineFeeds).sum := by
  induction texts with
  | nil => rfl
  | cons first texts induction =>
      cases texts with
      | nil => simp [join]
      | cons second texts =>
          rw [join_cons_cons, lineFeeds_append, lineFeeds_append, whole, induction]
          rfl

end Text

/-! ## Entries -/

/-- The line feeds in the strings that are shown of an entry. -/
def LogEntry.lineFeeds (entry : LogEntry) : Nat := (entry.shownStrings.map Text.lineFeeds).sum

theorem LogEntry.lineFeeds_eq_zero_iff {entry : LogEntry} :
    entry.lineFeeds = 0 ↔ ∀ string ∈ entry.shownStrings, '\n' ∉ string.toList := by
  simp only [lineFeeds, List.sum_eq_zero_iff_forall_eq_nat, List.forall_mem_map,
    Text.lineFeeds_eq_zero_iff]

theorem LogEntry.lineFeeds_extraPairs (entry : LogEntry) :
    (entry.extraPairs.map Text.lineFeeds).sum =
      ((entry.extra.flatMap memberStrings).map Text.lineFeeds).sum := by
  rw [extraPairs]
  induction entry.extra with
  | nil => rfl
  | cons member members induction =>
      obtain ⟨key, value⟩ := member
      have mark : Text.lineFeeds "=" = 0 := rfl
      have pair (text : String) : Text.lineFeeds s!"{key}={text}" =
          Text.lineFeeds key + Text.lineFeeds text := by
        change Text.lineFeeds (key ++ "=" ++ text) = _
        rw [lineFeeds_append, lineFeeds_append, mark, Nat.add_zero]
      rw [List.map_cons, List.map_cons, List.sum_cons, induction, List.flatMap_cons,
        List.map_append, List.sum_append]
      congr 1
      cases value with
      | string text => exact pair text
      | _ => exact (pair _).trans (by rw [(isPrintable_compact _).lineFeeds_eq]; rfl)

namespace Console

theorem lineFeeds_styledTo (width : Nat) (style : Option Style) (text : String) :
    Text.lineFeeds (styledTo width false style text) = Text.lineFeeds text := by
  have padded : styledTo width false style text = String.ofList (padRight width text.toList) := by
    cases style <;> rfl
  rw [padded, Text.lineFeeds, String.toList_ofList, padRight, List.count_append,
    List.count_replicate]
  rfl

theorem lineFeeds_styled (style : Style) (text : String) :
    Text.lineFeeds (styled false style text) = Text.lineFeeds text :=
  lineFeeds_styledTo 0 (some style) text

/-- The parts of a line, with the line feeds of those that an entry may lack. -/
theorem exists_logLine_parts (entry : LogEntry) :
    ∃ time name request extra : String,
      logLine false entry =
        time ++ styledTo 8 false (levelStyle entry.levelOrDefault) entry.levelOrDefault ++ name ++
          " " ++ entry.message ++ request ++ extra ∧
      Text.lineFeeds time = 0 ∧
      Text.lineFeeds name = (entry.name.toList.map Text.lineFeeds).sum ∧
      Text.lineFeeds request = (entry.requestId.toList.map Text.lineFeeds).sum ∧
      Text.lineFeeds extra =
        ((entry.extra.flatMap LogEntry.memberStrings).map Text.lineFeeds).sum := by
  have blank : Text.lineFeeds " " = 0 := rfl
  have gap : Text.lineFeeds "  " = 0 := rfl
  refine ⟨_, _, _, _, rfl, ?_, ?_, ?_, ?_⟩
  · cases entry.timestamp with
    | none => rfl
    | some instant =>
        dsimp only
        rw [lineFeeds_append, lineFeeds_styled, blank,
          (Time.Instant.isPrintable_shown instant).lineFeeds_eq]
  · cases entry.name with
    | none => rfl
    | some name =>
        dsimp only
        rw [lineFeeds_append, lineFeeds_styled, blank]
        simp
  · cases entry.requestId with
    | none => rfl
    | some request =>
        have label : Text.lineFeeds "request_id=" = 0 := rfl
        dsimp only
        rw [lineFeeds_append, lineFeeds_styled, lineFeeds_append, gap, label]
        simp
  · split
    · rename_i empty
      rw [List.isEmpty_iff.mp empty]
      rfl
    · rw [lineFeeds_append, gap, lineFeeds_styled, lineFeeds_join blank,
        entry.lineFeeds_extraPairs, Nat.zero_add]

/-- Nothing but the strings of an entry brings line feeds into its line. -/
theorem lineFeeds_logLine (entry : LogEntry) :
    Text.lineFeeds (logLine false entry) = entry.lineFeeds := by
  obtain ⟨time, name, request, extra, line, noTime, names, requests, extras⟩ :=
    exists_logLine_parts entry
  have blank : Text.lineFeeds " " = 0 := rfl
  have level : Text.lineFeeds entry.levelOrDefault =
      (entry.level.toList.map Text.lineFeeds).sum := by
    rw [LogEntry.levelOrDefault]
    cases entry.level with
    | none => rfl
    | some level => simp
  rw [line, LogEntry.lineFeeds, LogEntry.shownStrings]
  simp only [lineFeeds_append, lineFeeds_styledTo, List.map_append, List.map_cons, List.sum_append,
    List.sum_cons, noTime, level, names, blank, requests, extras]
  omega

/-- The lines of a log are the lines of its entries.  An entry has one line more than its strings
have line feeds, so that it has one line just when they have none. -/
theorem renderLogs_lines {entries : List LogEntry} (some : entries ≠ []) :
    pieces '\n' (renderLogs false entries).toList =
        entries.flatMap (fun entry => pieces '\n' (renderLogs false [entry]).toList) ∧
      (∀ entry ∈ entries,
        (pieces '\n' (renderLogs false [entry]).toList).length = entry.lineFeeds + 1) ∧
      (pieces '\n' (renderLogs false entries).toList =
          entries.map (fun entry => (renderLogs false [entry]).toList) ↔
        ∀ entry ∈ entries, ∀ string ∈ entry.shownStrings, '\n' ∉ string.toList) := by
  have single (entry : LogEntry) : renderLogs false [entry] = logLine false entry := rfl
  have whole : renderLogs false entries = join "\n" (entries.map (logLine false)) := by
    rw [renderLogs, if_neg (by simpa using some)]
  have lines : pieces '\n' (renderLogs false entries).toList =
      entries.flatMap fun entry => pieces '\n' (renderLogs false [entry]).toList := by
    rw [whole, pieces_join (by simpa using some), List.flatMap_map]
    rfl
  have own (entry : LogEntry) :
      (pieces '\n' (renderLogs false [entry]).toList).length = entry.lineFeeds + 1 := by
    rw [single, length_pieces, ← lineFeeds_logLine]
    rfl
  refine ⟨lines, fun entry _ => own entry, ?_⟩
  simp only [← LogEntry.lineFeeds_eq_zero_iff, ← lineFeeds_logLine, Text.lineFeeds_eq_zero_iff]
  constructor
  · intro asMany entry inside
    apply not_mem_of_mem_pieces
    rw [asMany]
    exact List.mem_map_of_mem inside
  · intro none
    rw [lines, List.map_eq_flatMap]
    exact List.flatMap_congr fun entry inside => pieces_of_not_mem (none entry inside)

def plainEntry : LogEntry := ⟨none, none, "ok", none, none, []⟩

def errorEntry : LogEntry := ⟨none, some "ERROR", "forged", none, none, []⟩

theorem renderLogs_lines_plainEntry :
    [plainEntry, errorEntry] ≠ [] ∧
      pieces '\n' (renderLogs false [plainEntry, errorEntry]).toList =
        ["INFO     ok".toList, "ERROR    forged".toList] := by
  have some : [plainEntry, errorEntry] ≠ [] := List.cons_ne_nil _ _
  have whole : ∀ entry ∈ [plainEntry, errorEntry],
      ∀ string ∈ entry.shownStrings, '\n' ∉ string.toList := by
    simp only [List.forall_mem_cons]
    decide
  refine ⟨some, ?_⟩
  rw [(renderLogs_lines some).2.2.mpr whole]
  decide +kernel

/-- A reply with one entry, whose message goes on as if another entry followed. -/
def forgedReply : String := "[\x7b\"message\":\"ok\\nERROR    forged\"\x7d]"

def honestReply : String :=
  "[\x7b\"message\":\"ok\"\x7d,\x7b\"level\":\"ERROR\",\"message\":\"forged\"\x7d]"

def shownReply : String := "INFO     ok\nERROR    forged"

/-- One entry of a reply is shown on two lines, just as two other entries are. -/
theorem forged_entry_is_shown :
    ∃ entries others, decodeText LogEntry.decodeList forgedReply = .ok entries ∧
      decodeText LogEntry.decodeList honestReply = .ok others ∧
      entries.length = 1 ∧ others.length = 2 ∧
      renderLogs false entries = renderLogs false others ∧
      pieces '\n' (renderLogs false entries).toList ≠
        entries.map fun entry => (renderLogs false [entry]).toList := by
  have forged : (decodeText LogEntry.decodeList forgedReply).toOption.any (fun entries =>
      entries.length = 1 ∧ renderLogs false entries = shownReply) = true := by
    decide +kernel
  have honest : (decodeText LogEntry.decodeList honestReply).toOption.any (fun others =>
      others.length = 2 ∧ renderLogs false others = shownReply) = true := by
    decide +kernel
  cases readForged : decodeText LogEntry.decodeList forgedReply with
  | error fault =>
      rw [readForged] at forged
      cases forged
  | ok entries =>
      cases readHonest : decodeText LogEntry.decodeList honestReply with
      | error fault =>
          rw [readHonest] at honest
          cases honest
      | ok others =>
          rw [readForged] at forged
          rw [readHonest] at honest
          obtain ⟨one, shown⟩ := of_decide_eq_true forged
          obtain ⟨two, shownToo⟩ := of_decide_eq_true honest
          refine ⟨entries, others, rfl, rfl, one, two, shown.trans shownToo.symm, ?_⟩
          intro asMany
          have counted := congrArg List.length asMany
          rw [List.length_map, one, length_pieces, shown] at counted
          exact absurd counted (by decide)

end Console

end NodeAdmin
