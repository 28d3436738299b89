import NodeAdmin.Proofs.Json.Wrapping
import NodeAdmin.Proofs.Node.LogEntries
import NodeAdmin.Proofs.Time.UnixSeconds

/-!
# Timestamps of log entries

Whatever stands as the timestamp of an entry, it decides that timestamp and nothing else: neither
whether a list of entries is read, nor the rest of the entry, nor any other entry.
-/

namespace NodeAdmin

open Json Time

namespace LogEntry

/-! ## Values of timestamps -/

/-- Whether a value is a whole number, as an integer or as a double. -/
inductive IsWhole (number : Int) : Json → Prop where
  | integer : IsWhole number (.integer number)
  | float {negative : Bool} {magnitude : Magnitude} (finite : magnitude.IsFinite)
      (units : Double.signedUnits negative magnitude = number * Double.unitsPerOne) :
      IsWhole number (.float (.number negative magnitude))

/-- What a value means as a timestamp. -/
structure Means (value : Json) (timestamp : Option Instant) : Prop where
  text : ∀ raw, value = .string raw → timestamp = Instant.read? raw
  whole : ∀ number, IsWhole number value →
    timestamp = if earliestSecond ≤ number ∧ number ≤ latestSecond then some ⟨number, 0⟩ else none
  null : value = .null → timestamp = none
  bool : ∀ truth, value = .bool truth → timestamp = none
  array : ∀ items, value = .array items → timestamp = none
  object : ∀ members, value = .object members → timestamp = none

theorem timestampOf_means (value : Json) : Means value (timestampOf value) := by
  constructor
  · rintro raw rfl
    rfl
  · intro number whole
    cases whole with
    | integer => exact Instant.ofUnixSeconds_ofInt number
    | float finite units => exact Instant.ofUnixSeconds_whole finite units
  · rintro rfl
    rfl
  · rintro truth rfl
    rfl
  · rintro items rfl
    rfl
  · rintro members rfl
    rfl

theorem decodeTimestamp_eq {site : Site} {tree : Tree} {value : Json}
    (read : tree.toJson site.level = .ok value) :
    decodeTimestamp site tree = .ok (timestampOf value) :=
  decode_optional_json rfl read

/-! ## Drafts with another timestamp -/

def Draft.putTimestamp (timestamp : Option (Option Instant)) (draft : Draft) : Draft :=
  { draft with timestamp := timestamp }

/-- Whether a member is the timestamp of an entry. -/
def isTimestamp (member : Tree × Tree) : Bool :=
  member.1.keyText.toOption == some "timestamp"

/-- The members of an entry but its timestamp. -/
def withoutTimestamp (members : List (Tree × Tree)) : List (Tree × Tree) :=
  members.filter fun member => !isTimestamp member

variable {site : Site}

/-- The other fields take no notice of the timestamp. -/
theorem ignores_putTimestamp {field : RecordField Draft} (isField : field ∈ fields)
    (other : field.keys ≠ ["timestamp"]) (timestamp : Option (Option Instant)) :
    field.Ignores (Draft.putTimestamp timestamp) := by
  simp only [fields, List.mem_cons, List.not_mem_nil, or_false] at isField
  rcases isField with rfl | rfl | rfl | rfl | rfl
  · exact absurd rfl other
  all_goals exact RecordField.slot_ignores (fun _ => rfl) fun _ _ => rfl

/-- Members that are no timestamp are read in the same way beside any. -/
theorem fillMembers_putTimestamp {members : List (Tree × Tree)}
    (others : ∀ member ∈ members, isTimestamp member = false)
    (timestamp : Option (Option Instant)) (draft : Draft) :
    fillMembers site members (draft.putTimestamp timestamp) =
      (fillMembers site members draft).map (·.putTimestamp timestamp) := by
  induction members generalizing draft with
  | nil => rfl
  | cons member members induction =>
      obtain ⟨key, value⟩ := member
      obtain ⟨own, others⟩ := List.forall_mem_cons.mp others
      rw [fillMembers, fillMembers]
      cases isName : key.keyText with
      | error fault => rfl
      | ok name =>
          have other : ["timestamp"].contains name = false := by
            simpa [isTimestamp, isName, Except.toOption] using own
          simp only [bind, Except.bind]
          cases found : fields.find? (·.keys.contains name) with
          | none =>
              dsimp only
              cases value.toJson site.level with
              | error fault => rfl
              | ok json =>
                  exact induction others { draft with extra := putMember name json draft.extra }
          | some field =>
              have ignores := ignores_putTimestamp (List.mem_of_find?_eq_some found)
                (keys_ne_of_find? other found) timestamp
              dsimp only
              rw [ignores.filled, ignores.fill]
              split
              · rfl
              · cases field.fill site value draft with
                | error fault => rfl
                | ok next => exact induction others next

theorem fillMembers_append (front back : List (Tree × Tree)) (draft : Draft) :
    fillMembers site (front ++ back) draft =
      (fillMembers site front draft).bind (fillMembers site back) := by
  induction front generalizing draft with
  | nil => rfl
  | cons member front induction =>
      obtain ⟨key, value⟩ := member
      rw [List.cons_append, fillMembers, fillMembers]
      cases key.keyText with
      | error fault => rfl
      | ok name =>
          simp only [bind, Except.bind]
          cases fields.find? (·.keys.contains name) with
          | none =>
              dsimp only
              cases value.toJson site.level with
              | error fault => rfl
              | ok json => exact induction _
          | some field =>
              dsimp only
              split
              · rfl
              · cases field.fill site value draft with
                | error fault => rfl
                | ok next => exact induction next

/-- A timestamp among members that have none. -/
theorem fillMembers_insert {front back : List (Tree × Tree)}
    (others : ∀ member ∈ front ++ back, isTimestamp member = false) {tree : Tree}
    {timestamp : Option Instant} (read : decodeTimestamp site tree = .ok timestamp)
    {draft filled : Draft} (free : draft.timestamp = none)
    (fills : fillMembers site (front ++ back) draft = .ok filled) :
    fillMembers site (front ++ (.string (.ok "timestamp"), tree) :: back) draft =
      .ok (filled.putTimestamp (some timestamp)) := by
  obtain ⟨fronts, backs⟩ := List.forall_mem_append.mp others
  rw [fillMembers_append] at fills ⊢
  obtain ⟨next, fillsFront, fillsBack⟩ := bind_eq_ok_iff.mp fills
  have stillFree : next.timestamp = none := by
    have own : draft.putTimestamp none = draft := by
      rw [Draft.putTimestamp, ← free]
    have unchanged : fillMembers site front (draft.putTimestamp none) = _ :=
      fillMembers_putTimestamp fronts none draft
    rw [own, fillsFront] at unchanged
    exact congrArg Draft.timestamp (Except.ok.inj unchanged)
  have fills : fillMembers site ((.string (.ok "timestamp"), tree) :: back) next =
      fillMembers site back (next.putTimestamp (some timestamp)) := by
    simp [fillMembers, Tree.keyText, fields, RecordField.slot, bind, Except.bind, stillFree, read,
      Except.map, Draft.putTimestamp]
  rw [fillsFront]
  change fillMembers site ((.string (.ok "timestamp"), tree) :: back) next = _
  rw [fills, fillMembers_putTimestamp backs, fillsBack]
  rfl

theorem fillMembers_timestamp {member : Tree × Tree} (own : isTimestamp member = true)
    {draft filled : Draft} (fills : fillMembers site [member] draft = .ok filled) :
    filled.putTimestamp none = draft.putTimestamp none := by
  obtain ⟨name, isName, read⟩ := bind_eq_ok_iff.mp fills
  obtain rfl : name = "timestamp" := by
    simpa [isTimestamp, isName, Except.toOption] using own
  split at read
  · rename_i field found
    obtain rfl : _ = field := Option.some.inj found
    split at read
    · cases read
    · obtain ⟨next, filledNext, same⟩ := bind_eq_ok_iff.mp read
      cases same
      obtain ⟨value, -, rfl⟩ := slot_fill_ok filledNext
      rfl
  · rename_i found
    exact absurd (find?_fields_eq_none_iff.mp found) (by simp [knownKeys])

/-- The timestamp left out of members that may have one. -/
theorem fillMembers_withoutTimestamp {members : List (Tree × Tree)} {draft filled : Draft}
    (fills : fillMembers site members draft = .ok filled) :
    fillMembers site (withoutTimestamp members) (draft.putTimestamp none) =
      .ok (filled.putTimestamp none) := by
  induction members generalizing draft with
  | nil =>
      cases fills
      rfl
  | cons member members induction =>
      rw [← List.singleton_append, fillMembers_append] at fills
      obtain ⟨next, fillsOwn, fillsOthers⟩ := bind_eq_ok_iff.mp fills
      have others := induction fillsOthers
      unfold withoutTimestamp at others ⊢
      cases own : isTimestamp member with
      | true =>
          rw [List.filter_cons_of_neg (by simp [own]), ← fillMembers_timestamp own fillsOwn]
          exact others
      | false =>
          have ownOnly : ∀ single ∈ [member], isTimestamp single = false :=
            List.forall_mem_singleton.mpr own
          rw [List.filter_cons_of_pos (by simp [own]), ← List.singleton_append,
            fillMembers_append, fillMembers_putTimestamp ownOnly, fillsOwn]
          exact others

/-! ## Entries with another timestamp -/

theorem decode_ok_iff {tree : Tree} {entry : LogEntry} :
    decode site tree = .ok entry ↔ ∃ members draft, tree = .object members none ∧
      fillMembers site.inner members ⟨none, none, none, none, none, []⟩ = .ok draft ∧
      ofDraft draft = entry := by
  constructor
  · intro read
    cases tree with
    | object members close =>
        obtain ⟨draft, fills, read⟩ := bind_eq_ok_iff.mp read
        obtain ⟨⟨⟩, closed, same⟩ := bind_eq_ok_iff.mp read
        cases close with
        | some fault => cases closed
        | none => exact ⟨members, draft, rfl, fills, Except.ok.inj same⟩
    | _ => cases read
  · rintro ⟨members, draft, rfl, fills, rfl⟩
    rw [decode, fills]
    rfl

/-- A list of entries is read with any value as the timestamp of an entry, and alike but for that
timestamp. -/
theorem decodeList_timestamp {document : Tree} {earlier later : List LogEntry} {entry : LogEntry}
    (read : decodeList site document = .ok (earlier ++ entry :: later)) :
    ∃ (wrapping : Wrapping "logs") (before after : List Tree) (members : List (Tree × Tree)),
      document = wrapping.tree (before ++ .object members none :: after) ∧
      before.length = earlier.length ∧
      decodeList site
          (wrapping.tree (before ++ .object (withoutTimestamp members) none :: after)) =
        .ok (earlier ++ { entry with timestamp := none } :: later) ∧
      ∀ front back tree value, front ++ back = withoutTimestamp members →
        tree.toJson (site.level + wrapping.depth + 2) = .ok value →
          ∃ timestamp, Means value timestamp ∧
            decodeList site (wrapping.tree (before ++
              .object (front ++ (.string (.ok "timestamp"), tree) :: back) none :: after)) =
              .ok (earlier ++ { entry with timestamp := timestamp } :: later) := by
  obtain ⟨wrapping, before, item, after, rfl, place, held, readItem, replaced⟩ :=
    Wrapping.exists_item_of_listOrWrapped read
  obtain ⟨members, draft, rfl, fills, rfl⟩ := decode_ok_iff.mp readItem
  obtain ⟨shallow, each, -⟩ := Tree.hasValue_object_iff.mp held
  have fillsWithout := fillMembers_withoutTimestamp fills
  have eachWithout : ∀ member ∈ withoutTimestamp members, _ :=
    fun member inside => each member (List.mem_of_mem_filter inside)
  refine ⟨wrapping, before, after, members, rfl, place, ?_, ?_⟩
  · refine replaced _ _ (Tree.hasValue_object_iff.mpr ⟨shallow, eachWithout, rfl⟩) ?_
    exact decode_ok_iff.mpr ⟨_, _, rfl, fillsWithout, rfl⟩
  · intro front back tree value split readTree
    refine ⟨timestampOf value, timestampOf_means value, ?_⟩
    rw [← split] at fillsWithout eachWithout
    have others : ∀ member ∈ front ++ back, isTimestamp member = false := by
      intro member inside
      rw [split] at inside
      simpa using List.of_mem_filter inside
    have readInside : decodeTimestamp ⟨site.level + 2, .mismatched⟩ tree =
        .ok (timestampOf value) :=
      decodeTimestamp_eq (Tree.toJson_of_le (by dsimp only; omega) tree readTree)
    apply replaced
    · refine Tree.hasValue_object_iff.mpr ⟨shallow, ?_, rfl⟩
      simp only [List.forall_mem_append, List.forall_mem_cons] at eachWithout ⊢
      exact ⟨eachWithout.1, ⟨⟨_, rfl⟩, value, readTree⟩, eachWithout.2⟩
    · exact decode_ok_iff.mpr
        ⟨_, _, rfl, fillMembers_insert others readInside rfl fillsWithout, rfl⟩

/-- Two wrapped entries, the later one with a timestamp that is no value for one. -/
def wrappedEntries : Tree :=
  .object [(.string (.ok "logs"), .array
    [.object [(.string (.ok "message"), .string (.ok "started"))] none,
      .object [(.string (.ok "timestamp"), .bool true),
        (.string (.ok "message"), .string (.ok "stopped"))] none] none)] none

def messageEntry (timestamp : Option Instant) (message : String) : LogEntry :=
  ⟨timestamp, none, message, none, none, []⟩

/-- The last second of all dates is a timestamp, the next one is none. -/
theorem decodeList_timestamp_wrappedEntries :
    decodeList ⟨0, .malformed⟩ wrappedEntries =
        .ok ([messageEntry none "started"] ++ messageEntry none "stopped" :: []) ∧
      ∃ (wrapping : Wrapping "logs") (before after : List Tree) (members : List (Tree × Tree)),
        wrappedEntries = wrapping.tree (before ++ .object members none :: after) ∧
        ∀ seconds ∈ [8210266876799, 8210266876800],
          decodeList ⟨0, .malformed⟩ (wrapping.tree (before ++
            .object ((.string (.ok "timestamp"), .number (.ok (.whole seconds))) ::
              withoutTimestamp members) none :: after)) =
            .ok [messageEntry none "started",
              messageEntry (if seconds = 8210266876799 then some ⟨seconds, 0⟩ else none)
                "stopped"] := by
  have read : decodeList ⟨0, .malformed⟩ wrappedEntries =
      .ok ([messageEntry none "started"] ++ messageEntry none "stopped" :: []) := rfl
  refine ⟨read, ?_⟩
  obtain ⟨wrapping, before, after, members, document, -, -, every⟩ := decodeList_timestamp read
  refine ⟨wrapping, before, after, members, document, ?_⟩
  intro seconds among
  obtain ⟨timestamp, means, decoded⟩ :=
    every [] (withoutTimestamp members) (.number (.ok (.whole seconds))) (.integer seconds) rfl rfl
  have first : earliestSecond = -8334601228800 := by decide +kernel
  have last : latestSecond = 8210266876799 := by decide +kernel
  have counted := means.whole seconds .integer
  rw [first, last] at counted
  rcases List.mem_pair.mp among with rfl | rfl
  · rw [counted] at decoded
    exact decoded
  · rw [counted] at decoded
    exact decoded

end LogEntry

end NodeAdmin
