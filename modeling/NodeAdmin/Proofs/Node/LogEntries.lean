import NodeAdmin.Node.LogEntry
import NodeAdmin.Proofs.Json.Slots
import NodeAdmin.Proofs.Node.Records
import NodeAdmin.Proofs.Time.Timestamps

/-!
# Log entries and their texts

An entry keeps every member that it has no field for, each key with its last value and in the
order of the keys.  It is read back from the texts that are written for it, whatever object it was
read from.
-/

namespace NodeAdmin

open Json Time

namespace LogEntry

/-! ## Members without a field -/

/-- The keys of the fields, in all spellings. -/
def knownKeys : List String :=
  ["timestamp", "level", "levelname", "message", "name", "request_id"]

theorem find?_fields_eq_none_iff {key : String} :
    fields.find? (·.keys.contains key) = none ↔ key ∉ knownKeys := by
  simp [fields, RecordField.slot, knownKeys, and_assoc]

/-- The value of the last member of a key. -/
def lastMember? (key : String) (members : List (Tree × Tree)) : Option Tree :=
  (members.filter fun member => member.1.keyText.toOption == some key).getLast?.map (·.2)

theorem lastMember?_append {members : List (Tree × Tree)} {named : Tree} {name : String}
    (isName : named.keyText = .ok name) (key : String) (value : Tree) :
    lastMember? key (members ++ [(named, value)]) =
      if name = key then some value else lastMember? key members := by
  by_cases same : name = key
  · simp [lastMember?, isName, same, Except.toOption]
  · simp [lastMember?, isName, same, Except.toOption]

/-- Whether `extra` has just the members without a field, each key once with its last value. -/
structure KeepsOthers (level : Nat) (members : List (Tree × Tree))
    (extra : List (String × Json)) : Prop where
  sorted : SortedByKey extra
  kept : ∀ key ∉ knownKeys, ∀ tree, lastMember? key members = some tree →
    ∃ value, tree.toJson level = .ok value ∧ (key, value) ∈ extra
  only : ∀ key value, (key, value) ∈ extra →
    key ∉ knownKeys ∧ ∃ tree, lastMember? key members = some tree ∧
      tree.toJson level = .ok value

namespace KeepsOthers

variable {level : Nat} {members : List (Tree × Tree)} {extra : List (String × Json)}
  {named tree : Tree} {name : String}

theorem nil (level : Nat) : KeepsOthers level [] [] := by
  constructor
  · exact List.Pairwise.nil
  · intro key _ tree found
    cases found
  · intro key value inside
    cases inside

theorem known (keeps : KeepsOthers level members extra) (isName : named.keyText = .ok name)
    (isKnown : name ∈ knownKeys) (tree : Tree) :
    KeepsOthers level (members ++ [(named, tree)]) extra := by
  have unchanged : ∀ key ∉ knownKeys,
      lastMember? key (members ++ [(named, tree)]) = lastMember? key members := by
    intro key unknown
    rw [lastMember?_append isName, if_neg]
    rintro rfl
    exact unknown isKnown
  constructor
  · exact keeps.sorted
  · intro key unknown found
    rw [unchanged key unknown]
    exact keeps.kept key unknown found
  · intro key value inside
    have unknown := (keeps.only key value inside).1
    rw [unchanged key unknown]
    exact keeps.only key value inside

theorem unknown (keeps : KeepsOthers level members extra) (isName : named.keyText = .ok name)
    (isUnknown : name ∉ knownKeys) {value : Json} (read : tree.toJson level = .ok value) :
    KeepsOthers level (members ++ [(named, tree)]) (putMember name value extra) := by
  constructor
  · exact keeps.sorted.putMember name value
  · intro key other found lastFound
    rw [lastMember?_append isName] at lastFound
    split at lastFound
    · rename_i same
      cases lastFound
      subst same
      exact ⟨value, read, (mem_putMember_iff keeps.sorted).mpr (.inl rfl)⟩
    · rename_i differs
      obtain ⟨earlier, readEarlier, inside⟩ := keeps.kept key other found lastFound
      refine ⟨earlier, readEarlier, (mem_putMember_iff keeps.sorted).mpr (.inr ⟨?_, inside⟩)⟩
      exact Ne.symm differs
  · intro key other inside
    rw [lastMember?_append isName]
    rcases (mem_putMember_iff keeps.sorted).mp inside with same | ⟨differs, earlier⟩
    · cases same
      exact ⟨isUnknown, tree, if_pos rfl, read⟩
    · rw [if_neg (Ne.symm differs)]
      exact keeps.only key other earlier

end KeepsOthers

/-! ## Drafts -/

theorem timestampOf_isProper {value : Json} {instant : Instant}
    (read : timestampOf value = some instant) : instant.IsProper := by
  unfold timestampOf at read
  split at read
  · exact Instant.read?_isProper read
  · exact Instant.ofMillis_isProper read
  · exact Instant.ofMillis_isProper read
  · cases read

theorem decodeTimestamp_isProper {site : Site} {tree : Tree} {instant : Instant}
    (read : decodeTimestamp site tree = .ok (some instant)) : instant.IsProper := by
  unfold decodeTimestamp at read
  cases found : Decode.optional Decode.json site tree with
  | error fault =>
      rw [found] at read
      cases read
  | ok value =>
      rw [found] at read
      obtain ⟨json, -, proper⟩ := Option.bind_eq_some_iff.mp (Except.ok.inj read)
      exact timestampOf_isProper proper

/-- What a draft holds after some members. -/
structure Draft.Holds (level : Nat) (members : List (Tree × Tree)) (draft : Draft) : Prop where
  others : KeepsOthers level members draft.extra
  fits : ∀ member ∈ draft.extra, Fits level member.2
  proper : ∀ instant, draft.timestamp = some (some instant) → instant.IsProper

/-- A field keeps the other members, and only one field fills in a timestamp. -/
theorem fill_keeps {field : RecordField Draft} (isField : field ∈ fields) {site : Site}
    {tree : Tree} {draft next : Draft} (filled : field.fill site tree draft = .ok next) :
    next.extra = draft.extra ∧
      (next.timestamp = draft.timestamp ∨
        ∃ value, decodeTimestamp site tree = .ok value ∧ next.timestamp = some value) := by
  simp only [fields, List.mem_cons, List.not_mem_nil, or_false] at isField
  rcases isField with rfl | rfl | rfl | rfl | rfl
  · obtain ⟨value, read, rfl⟩ := slot_fill_ok filled
    exact ⟨rfl, .inr ⟨value, read, rfl⟩⟩
  all_goals
    obtain ⟨value, -, rfl⟩ := slot_fill_ok filled
    exact ⟨rfl, .inl rfl⟩

variable {site : Site}

theorem Draft.Holds.fill {members : List (Tree × Tree)} {draft next : Draft}
    (holds : draft.Holds site.level members) {named tree : Tree} {name : String}
    (isName : named.keyText = .ok name) {field : RecordField Draft}
    (found : fields.find? (·.keys.contains name) = some field)
    (filled : field.fill site tree draft = .ok next) :
    next.Holds site.level (members ++ [(named, tree)]) := by
  have isKnown : name ∈ knownKeys := by
    by_contra unknown
    rw [find?_fields_eq_none_iff.mpr unknown] at found
    cases found
  obtain ⟨extra, timestamp⟩ := fill_keeps (List.mem_of_find?_eq_some found) filled
  constructor
  · rw [extra]
    exact holds.others.known isName isKnown tree
  · rw [extra]
    exact holds.fits
  · intro instant present
    rcases timestamp with same | ⟨value, read, fresh⟩
    · exact holds.proper instant (same ▸ present)
    · rw [fresh] at present
      cases present
      exact decodeTimestamp_isProper read

theorem Draft.Holds.put {members : List (Tree × Tree)} {draft : Draft}
    (holds : draft.Holds site.level members) {named tree : Tree} {name : String}
    (isName : named.keyText = .ok name)
    (found : fields.find? (·.keys.contains name) = none) (words : tree.HasWords) {value : Json}
    (read : tree.toJson site.level = .ok value) :
    Draft.Holds site.level (members ++ [(named, tree)])
      { draft with extra := putMember name value draft.extra } := by
  constructor
  · exact holds.others.unknown isName (find?_fields_eq_none_iff.mp found) read
  · intro member inside
    rcases (mem_putMember_iff holds.others.sorted).mp inside with rfl | ⟨-, earlier⟩
    · exact words.fits read
    · exact holds.fits member earlier
  · exact holds.proper

/-- What holds after some members holds after all that are read behind them. -/
theorem Draft.Holds.fillMembers {before members : List (Tree × Tree)} {draft filled : Draft}
    (holds : draft.Holds site.level before)
    (words : ∀ member ∈ members, member.2.HasWords)
    (read : fillMembers site members draft = .ok filled) :
    filled.Holds site.level (before ++ members) := by
  induction members generalizing before draft with
  | nil =>
      cases read
      rwa [List.append_nil]
  | cons member members induction =>
      obtain ⟨named, tree⟩ := member
      have others := fun member inside => words member (List.mem_cons_of_mem _ inside)
      obtain ⟨name, isName, read⟩ := bind_eq_ok_iff.mp read
      rw [← List.singleton_append, ← List.append_assoc]
      cases found : fields.find? (·.keys.contains name) with
      | some field =>
          rw [found] at read
          dsimp only at read
          split at read
          · cases read
          · obtain ⟨next, filledNext, read⟩ := bind_eq_ok_iff.mp read
            exact induction (holds.fill isName found filledNext) others read
      | none =>
          rw [found] at read
          obtain ⟨value, readValue, read⟩ := bind_eq_ok_iff.mp read
          have own := words (named, tree) List.mem_cons_self
          exact induction (holds.put isName found own readValue) others read

theorem Draft.holds_empty (level : Nat) :
    Draft.Holds level [] ⟨none, none, none, none, none, []⟩ := by
  constructor
  · exact .nil level
  · exact List.forall_mem_nil _
  · intro instant absent
    cases absent

/-! ## Read entries -/

/-- What an entry holds of the object that it was read from. -/
structure Holds (entry : LogEntry) (level : Nat) (members : List (Tree × Tree)) : Prop where
  others : KeepsOthers level members entry.extra
  fits : ∀ member ∈ entry.extra, Fits level member.2
  proper : ∀ instant ∈ entry.timestamp, instant.IsProper

theorem decode_holds {tree : Tree} {entry : LogEntry} (words : tree.HasWords)
    (read : decode site tree = .ok entry) :
    ∃ members, tree = .object members none ∧ entry.Holds site.inner.level members := by
  cases words with
  | @object members each close =>
      obtain ⟨filled, fills, read⟩ := bind_eq_ok_iff.mp read
      obtain ⟨⟨⟩, closed, read⟩ := bind_eq_ok_iff.mp read
      cases read
      have holds := (Draft.holds_empty site.inner.level).fillMembers each fills
      cases close with
      | some fault => cases closed
      | none =>
          refine ⟨members, rfl, holds.others, holds.fits, ?_⟩
          intro instant present
          exact holds.proper instant (Option.join_eq_some_iff.mp present)
  | _ => cases read

/-! ## Written entries -/

/-- The fields of an entry, read like those of a record. -/
def shape : RecordShape Draft LogEntry where
  fields := fields
  empty := ⟨none, none, none, none, none, []⟩
  finish draft := some (ofDraft draft)

/-- Members with fields are read as those of a record are. -/
theorem fillMembers_known {members : List (String × Json)}
    (known : ∀ member ∈ members, member.1 ∈ knownKeys) (rest : List (Tree × Tree))
    {draft filled : Draft}
    (fills : shape.fillMembers site
      (members.map fun member => (.string (.ok member.1), member.2.document.tree)) draft =
        .ok filled) :
    fillMembers site
        (members.map (fun member => (.string (.ok member.1), member.2.document.tree)) ++ rest)
        draft = fillMembers site rest filled := by
  induction members generalizing draft with
  | nil =>
      cases fills
      rfl
  | cons member members induction =>
      have others := fun other inside => known other (List.mem_cons_of_mem _ inside)
      have isKnown := known member List.mem_cons_self
      rw [List.map_cons, RecordShape.fillMembers] at fills
      rw [List.map_cons, List.cons_append, fillMembers]
      obtain ⟨name, isName, fills⟩ := bind_eq_ok_iff.mp fills
      cases isName
      simp only [shape, Tree.keyText, bind, Except.bind] at fills ⊢
      cases found : fields.find? (·.keys.contains member.1) with
      | none => exact absurd isKnown (find?_fields_eq_none_iff.mp found)
      | some field =>
          rw [found] at fills
          dsimp only at fills ⊢
          split at fills
          · cases fills
          · rename_i free
            rw [if_neg free]
            cases filledNext : field.fill site member.2.document.tree draft with
            | error fault =>
                rw [filledNext] at fills
                cases fills
            | ok next =>
                rw [filledNext] at fills
                exact induction others fills

/-- Sorted members without a field are put behind one another. -/
theorem fillMembers_unknown {extra : List (String × Json)} {draft : Draft}
    (sorted : SortedByKey (draft.extra ++ extra))
    (unknown : ∀ member ∈ extra, member.1 ∉ knownKeys)
    (read : ∀ member ∈ extra, member.2.document.tree.toJson site.level = .ok member.2) :
    fillMembers site (extra.map fun member => (.string (.ok member.1), member.2.document.tree))
      draft = .ok { draft with extra := draft.extra ++ extra } := by
  induction extra generalizing draft with
  | nil =>
      rw [List.append_nil]
      rfl
  | cons member extra induction =>
      obtain ⟨key, value⟩ := member
      have noField := find?_fields_eq_none_iff.mpr (unknown (key, value) List.mem_cons_self)
      have first : value.document.tree.toJson site.level = .ok value :=
        read (key, value) List.mem_cons_self
      have above : ∀ earlier ∈ draft.extra, earlier.1 < key := by
        intro earlier inside
        exact (List.pairwise_append.mp sorted).2.2 earlier inside (key, value) List.mem_cons_self
      rw [List.append_cons] at sorted
      rw [List.map_cons, fillMembers]
      simp only [Tree.keyText, noField, first, bind, Except.bind, putMember_of_above above]
      rw [induction sorted (fun other inside => unknown other (List.mem_cons_of_mem _ inside))
        (fun other inside => read other (List.mem_cons_of_mem _ inside)), ← List.append_cons]

/-- Whether the texts of an entry can be read back: its year has four digits, and its doubles are
read back themselves. -/
structure ReadsBack (entry : LogEntry) : Prop where
  year : ∀ instant ∈ entry.timestamp, 0 ≤ instant.date.year ∧ instant.date.year ≤ 9999
  floats : ∀ double ∈ memberFloats entry.extra, double.ReadsBack

instance (entry : LogEntry) : Decidable entry.ReadsBack :=
  decidable_of_iff ((∀ instant ∈ entry.timestamp,
      0 ≤ instant.date.year ∧ instant.date.year ≤ 9999) ∧
    ∀ double ∈ memberFloats entry.extra, double.ReadsBack)
    ⟨fun both => ⟨both.1, both.2⟩, fun readsBack => ⟨readsBack.year, readsBack.floats⟩⟩

theorem decodeTimestamp_toJsonText {instant : Instant} (proper : instant.IsProper)
    (year : 0 ≤ instant.date.year ∧ instant.date.year ≤ 9999) :
    decodeTimestamp site (string instant.toJsonText).document.tree = .ok (some instant) := by
  have found : Decode.optional Decode.json site (string instant.toJsonText).document.tree =
      .ok (some (string instant.toJsonText)) := by
    rw [document, Document.tree]
    rfl
  rw [decodeTimestamp, found]
  simp only [Except.map, Option.bind_some, timestampOf, proper.read?_toJsonText year]

theorem optional_known {key : String} (isKnown : key ∈ knownKeys) (value : Option Json) :
    ∀ member ∈ Json.optional key value, member.1 ∈ knownKeys := by
  cases value with
  | none => exact List.forall_mem_nil _
  | some value => exact List.forall_mem_singleton.mpr isKnown

/-- The members of the fields, as they are written. -/
def fieldMembers (entry : LogEntry) : List (String × Json) :=
  Json.optional "timestamp" (entry.timestamp.map fun instant => .string instant.toJsonText) ++
    Json.optional "level" (entry.level.map .string) ++ [("message", .string entry.message)] ++
    Json.optional "name" (entry.name.map .string) ++
    Json.optional "request_id" (entry.requestId.map .string)

theorem fieldMembers_known (entry : LogEntry) :
    ∀ member ∈ entry.fieldMembers, member.1 ∈ knownKeys := by
  have messages : ∀ member ∈ [("message", Json.string entry.message)], member.1 ∈ knownKeys :=
    List.forall_mem_singleton.mpr (by simp [knownKeys])
  simp only [fieldMembers, List.forall_mem_append]
  exact ⟨⟨⟨⟨optional_known (by decide) _, optional_known (by decide) _⟩, messages⟩,
    optional_known (by decide) _⟩, optional_known (by decide) _⟩

/-- The draft that holds the fields of an entry. -/
def fieldDraft (entry : LogEntry) : Draft where
  timestamp := entry.timestamp.map some
  level := entry.level.map some
  message := some entry.message
  name := entry.name.map some
  requestId := entry.requestId.map some
  extra := []

theorem fieldMembers_fill {entry : LogEntry}
    (timestamps : ∀ instant ∈ entry.timestamp, decodeTimestamp site
      (string instant.toJsonText).document.tree = .ok (some instant)) :
    Fills shape site entry.fieldMembers shape.empty entry.fieldDraft := by
  obtain ⟨timestamp, level, message, name, requestId, extra⟩ := entry
  have timestamps := Fills.optional site shape "timestamp"
    (fun timestamp => ⟨timestamp, none, none, none, none, []⟩) timestamp
    rfl rfl (fun _ => rfl) timestamps
  have levels := Fills.optional site shape "level"
    (fun level => ⟨timestamp.map some, level, none, none, none, []⟩) level
    rfl rfl (fun _ => rfl) fun level _ => decode_optional nofun (decode_string level)
  have messages := Fills.slot site shape "message"
    (fun message => ⟨timestamp.map some, level.map some, message, none, none, []⟩)
    rfl rfl (fun _ => rfl) (decode_string message)
  have names := Fills.optional site shape "name"
    (fun name => ⟨timestamp.map some, level.map some, some message, name, none, []⟩) name
    rfl rfl (fun _ => rfl) fun name _ => decode_optional nofun (decode_string name)
  have requestIds := Fills.optional site shape "request_id"
    (fun requestId =>
      ⟨timestamp.map some, level.map some, some message, name.map some, requestId, []⟩) requestId
    rfl rfl (fun _ => rfl) fun requestId _ => decode_optional nofun (decode_string requestId)
  exact (((timestamps.append levels).append messages).append names).append requestIds

theorem decode_toJson {entry : LogEntry} {level : Nat} {members : List (Tree × Tree)}
    (holds : entry.Holds level members) (fewer : site.inner.level ≤ level)
    (readsBack : entry.ReadsBack) :
    decode site entry.toJson.document.tree = .ok entry := by
  have fills : Fills shape site.inner entry.fieldMembers shape.empty entry.fieldDraft :=
    fieldMembers_fill fun instant present =>
      decodeTimestamp_toJsonText (holds.proper instant present) (readsBack.year instant present)
  -- Nothing follows the fields here; the members without a field are read behind them.
  have known := fills []
  rw [List.append_nil, RecordShape.fillMembers] at known
  have extra : fillMembers site.inner (entry.extra.map fun member =>
      (.string (.ok member.1), member.2.document.tree)) entry.fieldDraft =
        .ok { entry.fieldDraft with extra := entry.extra } := by
    apply @fillMembers_unknown site.inner entry.extra entry.fieldDraft holds.others.sorted
    · intro member inside
      exact (holds.others.only member.1 member.2 inside).1
    · intro member inside
      apply ((holds.fits member inside).of_le fewer).toJson_document
      intro double held
      exact readsBack.floats double (mem_memberFloats inside held)
  have written : entry.toJson = .object (entry.fieldMembers ++ entry.extra) := rfl
  rw [written, document, Document.tree, List.map_map, List.map_append]
  simp only [Function.comp_def, decode]
  change fillMembers site.inner _ shape.empty >>= _ = _
  rw [fillMembers_known entry.fieldMembers_known _ known, extra]
  simp only [bind, Except.bind, Tree.closed, ofDraft, fieldDraft, join_map_some, Option.getD_some]

/-! ## Shown members -/

/-- How a member is shown: a string without quotes, any other value as its compact text. -/
inductive ShowsPair : String × Json → String → Prop where
  | string (key text : String) : ShowsPair (key, .string text) (key ++ "=" ++ text)
  | other (key : String) {value : Json} (noString : ∀ text, value ≠ .string text) :
      ShowsPair (key, value) (key ++ "=" ++ value.compact)

theorem extraPairs_show (entry : LogEntry) :
    List.Forall₂ ShowsPair entry.extra entry.extraPairs := by
  unfold extraPairs
  generalize entry.extra = members
  induction members with
  | nil => exact .nil
  | cons member members induction =>
      obtain ⟨key, value⟩ := member
      rw [List.map_cons]
      refine .cons ?_ induction
      cases value with
      | string text => exact .string key text
      | null | bool | integer | float | array | object => exact .other key nofun

/-! ## Texts -/

/-- What an entry keeps of the members of an object. -/
structure Faithful (entry : LogEntry) (level : Nat) (members : List (Tree × Tree)) : Prop where
  others : KeepsOthers level members entry.extra
  pairs : List.Forall₂ ShowsPair entry.extra entry.extraPairs
  roundTrip : entry.ReadsBack → RoundTrips decode toJson entry

/-- An entry that is read from a part of a text is faithful to it, however deep the part lies. -/
theorem decode_faithful {tree : Tree} {entry : LogEntry} (words : tree.HasWords)
    (read : decode site tree = .ok entry) :
    ∃ members, tree = .object members none ∧ entry.Faithful site.inner.level members := by
  obtain ⟨members, object, holds⟩ := decode_holds words read
  refine ⟨members, object, holds.others, entry.extraPairs_show, ?_⟩
  intro readsBack
  apply roundTrips_of_tree
  exact decode_toJson holds (Nat.succ_le_succ (Nat.zero_le site.level)) readsBack

/-- An entry keeps the members of its text that it has no field for, and is read back from the
texts that are written for it. -/
theorem decodeText_faithful {text : String} {entry : LogEntry}
    (read : decodeText decode text = .ok entry) :
    ∃ members rest, Tree.ofText text.toList = (.object members none, rest) ∧
      entry.Faithful 1 members := by
  obtain ⟨found, decoded, finished⟩ := bind_eq_ok_iff.mp read
  have same : found = entry := by
    split at finished
    · cases finished
    · exact Except.ok.inj finished
  subst same
  obtain ⟨members, object, faithful⟩ :=
    decode_faithful (Tree.ofText_hasWords text.toList) decoded
  exact ⟨members, (Tree.ofText text.toList).2, Prod.ext object rfl, faithful⟩

/-- An object with a repeated key, an older name for the level, nested values and a leap second in
another zone. -/
def awkwardText : String :=
  "\x7b\"z\":1,\"levelname\":\"WARN\"," ++
    "\"a\":\x7b\"n\":[1.5,-0,18446744073709551615],\"e\":\x7b\x7d\x7d," ++
    "\"timestamp\":\"2016-12-31T18:59:60.000000007-05:00\"," ++
    "\"z\":\"last\",\"message\":\"a\\\"b\"\x7d"

/-- What is kept of it besides the fields. -/
def awkwardPairs : List String :=
  ["a=\x7b\"e\":\x7b\x7d,\"n\":[1.5,-0.0,18446744073709551615]\x7d", "z=last"]

theorem decodeText_faithful_awkwardText :
    ∃ entry, decodeText decode awkwardText = .ok entry ∧ entry.ReadsBack ∧
      entry.timestamp = some ⟨1483228799, 1000000007⟩ ∧ entry.extraPairs = awkwardPairs ∧
      (∃ members rest, Tree.ofText awkwardText.toList = (.object members none, rest) ∧
        entry.Faithful 1 members) ∧
      RoundTrips decode toJson entry := by
  have checked : (decodeText decode awkwardText).toOption.any (fun entry =>
      entry.ReadsBack ∧ entry.timestamp = some ⟨1483228799, 1000000007⟩ ∧
        entry.extraPairs = awkwardPairs) = true := by
    decide +kernel
  cases read : decodeText decode awkwardText with
  | error fault =>
      rw [read] at checked
      cases checked
  | ok entry =>
      rw [read] at checked
      obtain ⟨readsBack, timestamp, pairs⟩ := of_decide_eq_true checked
      obtain ⟨members, rest, object, faithful⟩ := decodeText_faithful read
      exact ⟨entry, rfl, readsBack, timestamp, pairs, ⟨members, rest, object, faithful⟩,
        faithful.roundTrip readsBack⟩

end LogEntry

end NodeAdmin
