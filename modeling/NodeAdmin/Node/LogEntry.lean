import NodeAdmin.Json.Decode
import NodeAdmin.Json.Printer
import NodeAdmin.Time.Reading
import NodeAdmin.Time.Writing

/-!
# Log entries

One record of a node's log. Members that an entry does not know are kept, so
that they can still be shown.
-/

namespace NodeAdmin

open Json Time

structure LogEntry where
  timestamp : Option Instant
  level : Option String
  message : String
  name : Option String
  requestId : Option String
  /-- The other members, sorted by key, each key once. -/
  extra : List (String × Json)

namespace LogEntry

/-- The instant that a value stands for: the text of a timestamp, or a number of
seconds since the start of 1970. -/
def timestampOf : Json → Option Instant
  | .string raw => Instant.read? raw
  | .integer seconds => Instant.ofUnixSeconds (Double.ofInt seconds)
  | .float seconds => Instant.ofUnixSeconds seconds
  | _ => none

def decodeTimestamp : Decoder (Option Instant) := fun site tree =>
  (Decode.optional Decode.json site tree).map fun value => value.bind timestampOf

/-- The fields of an entry that were read so far, and its other members. -/
structure Draft where
  timestamp : Option (Option Instant)
  level : Option (Option String)
  message : Option String
  name : Option (Option String)
  requestId : Option (Option String)
  extra : List (String × Json)

def fields : List (RecordField Draft) :=
  [ .slot ["timestamp"] (·.timestamp)
      (fun value draft => { draft with timestamp := some value }) decodeTimestamp,
    .slot ["level", "levelname"] (·.level)
      (fun value draft => { draft with level := some value })
      (Decode.optional Decode.string),
    .slot ["message"] (·.message)
      (fun value draft => { draft with message := some value }) Decode.string,
    .slot ["name"] (·.name)
      (fun value draft => { draft with name := some value })
      (Decode.optional Decode.string),
    .slot ["request_id"] (·.requestId)
      (fun value draft => { draft with requestId := some value })
      (Decode.optional Decode.string) ]

/-- Reads members in order and keeps those that no field knows. -/
def fillMembers (site : Site) : List (Tree × Tree) → Draft → Except Fault Draft
  | [], draft => .ok draft
  | (key, value) :: rest, draft => do
      let key ← key.keyText
      match fields.find? (·.keys.contains key) with
      | some field =>
          if field.filled draft then .error .mismatched
          else
            let draft ← field.fill site value draft
            fillMembers site rest draft
      | none =>
          let value ← value.toJson site.level
          fillMembers site rest
            { draft with extra := putMember key value draft.extra }

def ofDraft (draft : Draft) : LogEntry where
  timestamp := draft.timestamp.join
  level := draft.level.join
  message := draft.message.getD ""
  name := draft.name.join
  requestId := draft.requestId.join
  extra := draft.extra

/-- An entry must be an object. -/
def decode : Decoder LogEntry
  | site, .object members close => do
      let draft ← fillMembers site.inner members ⟨none, none, none, none, none, []⟩
      Tree.closed close
      .ok (ofDraft draft)
  | _, tree => .error tree.mismatch

/-- A list of entries, bare or wrapped. -/
def decodeList : Decoder (List LogEntry) := listOrWrapped "logs" decode

def toJson (entry : LogEntry) : Json :=
  .object
    (optional "timestamp" (entry.timestamp.map fun instant => .string instant.toJsonText) ++
      optional "level" (entry.level.map .string) ++
      [("message", .string entry.message)] ++
      optional "name" (entry.name.map .string) ++
      optional "request_id" (entry.requestId.map .string) ++ entry.extra)

/-- The level; an entry without one is informational. -/
def levelOrDefault (entry : LogEntry) : String := entry.level.getD "INFO"

/-- The other members as key and value, strings without quotes. -/
def extraPairs (entry : LogEntry) : List String :=
  entry.extra.map fun member =>
    match member.2 with
    | .string value => s!"{member.1}={value}"
    | value => s!"{member.1}={value.compact}"

end LogEntry

end NodeAdmin
