import NodeAdmin.Json.Tree
import NodeAdmin.Word.Bounds

/-!
# Reading values and records from JSON trees

Decoders walk a tree in the order of the text and stop at the first problem. A
record may be written as an object or as an array of its fields in their
declared order; keys that a record does not know are passed over, and a key
that occurs twice is a mismatch.
-/

namespace NodeAdmin.Json

/-- Containers nested this deep are refused where a value is wanted. -/
def depthLimit : Nat := 128

/-- Where a decoder stands: how many containers are open around it, and what an
array with too many elements for its record counts as. -/
structure Site where
  level : Nat
  surplus : Fault

def Site.inner (site : Site) : Site := ⟨site.level + 1, site.surplus⟩

/-- A reader of one kind of value. -/
abbrev Decoder (α : Type) := Site → Tree → Except Fault α

namespace Tree

/-- The problem of a tree that is not of the wanted kind: a leaf that is itself
at fault says so, and anything else is a mismatch. -/
def mismatch : Tree → Fault
  | number (.error fault) => fault
  | string (.error fault) => fault
  | broken wanted _ => wanted
  | _ => .mismatched

def closed : Option Fault → Except Fault Unit
  | none => .ok ()
  | some fault => .error fault

mutual

/-- Passes over a tree. -/
def pass : Tree → Except Fault Unit
  | array items close => do
      passItems items
      closed close
  | object members close => do
      passMembers members
      closed close
  | broken _ passed => .error passed
  | _ => .ok ()

def passItems : List Tree → Except Fault Unit
  | [] => .ok ()
  | item :: rest => do
      pass item
      passItems rest

def passMembers : List (Tree × Tree) → Except Fault Unit
  | [] => .ok ()
  | (key, value) :: rest => do
      pass key
      pass value
      passMembers rest

end

/-- The text of a key. -/
def keyText : Tree → Except Fault String
  | string value => value
  | tree => .error tree.mismatch

mutual

/-- The value of a tree below `level` open containers, its objects sorted. -/
def toJson (level : Nat) : Tree → Except Fault Json
  | null => .ok .null
  | bool value => .ok (.bool value)
  | number value => value.map fun
      | .whole value => .integer value
      | .double value => .float value
  | string value => value.map .string
  | array items close =>
      if depthLimit ≤ level + 1 then .error .malformed
      else do
        let values ← itemsToJson (level + 1) items
        closed close
        .ok (.array values)
  | object members close =>
      if depthLimit ≤ level + 1 then .error .malformed
      else do
        let values ← membersToJson (level + 1) members
        closed close
        .ok (.object (sortMembers values))
  | broken wanted _ => .error wanted

def itemsToJson (level : Nat) : List Tree → Except Fault (List Json)
  | [] => .ok []
  | item :: rest => do
      let value ← toJson level item
      let values ← itemsToJson level rest
      .ok (value :: values)

def membersToJson (level : Nat) :
    List (Tree × Tree) → Except Fault (List (String × Json))
  | [] => .ok []
  | (key, value) :: rest => do
      let key ← keyText key
      let value ← toJson level value
      let values ← membersToJson level rest
      .ok ((key, value) :: values)

end

end Tree

namespace Decode

def string : Decoder String
  | _, .string value => value
  | _, tree => .error tree.mismatch

def bool : Decoder Bool
  | _, .bool value => .ok value
  | _, tree => .error tree.mismatch

/-- Any number is fine for a double. -/
def double : Decoder Double
  | _, .number (.ok (.whole value)) => .ok (Double.ofInt value)
  | _, .number (.ok (.double value)) => .ok value
  | _, tree => .error tree.mismatch

/-- Only whole numbers of 64 bits are signed integers. -/
def int64 : Decoder Int64
  | _, .number (.ok (.whole value)) =>
      if Word.isSigned64 value then .ok (Int64.ofInt value)
      else .error .mismatched
  | _, tree => .error tree.mismatch

def json : Decoder Json := fun site tree => tree.toJson site.level

/-- Null stands for no value. -/
def optional {α : Type} (decoder : Decoder α) : Decoder (Option α)
  | _, .null => .ok none
  | site, tree => (decoder site tree).map some

def items {α : Type} (decoder : Decoder α) (site : Site) :
    List Tree → Except Fault (List α)
  | [] => .ok []
  | item :: rest => do
      let value ← decoder site item
      let values ← items decoder site rest
      .ok (value :: values)

def list {α : Type} (decoder : Decoder α) : Decoder (List α)
  | site, .array trees close =>
      if depthLimit ≤ site.level + 1 then .error .malformed
      else do
        let values ← items decoder site.inner trees
        Tree.closed close
        .ok values
  | _, tree => .error tree.mismatch

end Decode

/-- A field of a record that is being read into a draft: its key and the other
spellings of it, whether the draft has it, and how a value is put in. -/
structure RecordField (δ : Type) where
  keys : List String
  filled : δ → Bool
  fill : Site → Tree → δ → Except Fault δ

/-- A field that keeps its value in one slot of the draft. -/
def RecordField.slot {δ α : Type} (keys : List String) (get : δ → Option α)
    (put : α → δ → δ) (decoder : Decoder α) : RecordField δ where
  keys := keys
  filled draft := (get draft).isSome
  fill site tree draft := (decoder site tree).map fun value => put value draft

/-- How a record is read: its fields in declared order, the empty draft, and the
record of a draft unless a required field is missing. -/
structure RecordShape (δ α : Type) where
  fields : List (RecordField δ)
  empty : δ
  finish : δ → Option α

namespace RecordShape

variable {δ α : Type}

/-- Reads members in order. A key that was seen is refused before its value is
looked at. -/
def fillMembers (shape : RecordShape δ α) (site : Site) :
    List (Tree × Tree) → δ → Except Fault δ
  | [], draft => .ok draft
  | (key, value) :: rest, draft => do
      let key ← key.keyText
      match shape.fields.find? (·.keys.contains key) with
      | some field =>
          if field.filled draft then .error .mismatched
          else
            let draft ← field.fill site value draft
            fillMembers shape site rest draft
      | none =>
          value.pass
          fillMembers shape site rest draft

/-- Reads elements for the fields in order, and tells whether elements are left
over. -/
def fillElements (site : Site) : List (RecordField δ) → List Tree → δ →
    Except Fault (δ × Bool)
  | [], elements, draft => .ok (draft, !elements.isEmpty)
  | _ :: _, [], draft => .ok (draft, false)
  | field :: fields, element :: elements, draft => do
      let draft ← field.fill site element draft
      fillElements site fields elements draft

def finished (shape : RecordShape δ α) (draft : δ) : Except Fault α :=
  match shape.finish draft with
  | some value => .ok value
  | none => .error .mismatched

/-- The record of a tree. -/
def decode (shape : RecordShape δ α) : Decoder α
  | site, .object members close =>
      if depthLimit ≤ site.level + 1 then .error .malformed
      else do
        let draft ← shape.fillMembers site.inner members shape.empty
        Tree.closed close
        shape.finished draft
  | site, .array elements close =>
      if depthLimit ≤ site.level + 1 then .error .malformed
      else do
        let (draft, surplus) ←
          fillElements site.inner shape.fields elements shape.empty
        if surplus then
          let _ ← shape.finished draft
          .error site.surplus
        else
          Tree.closed close
          shape.finished draft
  | _, tree => .error tree.mismatch

end RecordShape

/-- After a value only white space may follow. -/
def finishText {α : Type} (value : Except Fault α) (rest : Option (List Char)) :
    Except Fault α := do
  let value ← value
  match rest.map skipSpace with
  | some (_ :: _) => .error .malformed
  | _ => .ok value

/-- Reads a document straight from its text. -/
def decodeText {α : Type} (decoder : Decoder α) (text : String) : Except Fault α :=
  let step := Tree.ofText text.toList
  finishText (decoder ⟨0, .malformed⟩ step.1) step.2

/-- The value of a document. -/
def parse (text : String) : Except Fault Json := decodeText Decode.json text

/-- The members of a wrapped list: exactly one of the wanted key, others
passed over. -/
def wrapped? (key : String) : Tree → Option Tree
  | .object members _ =>
      match members.filter (fun member => member.1.keyText.toOption == some key) with
      | [(_, value)] => some value
      | _ => none
  | _ => none

/-- A list that may be wrapped into an object under a known key. The whole tree
is read first, so that its problems come before any mismatch. -/
def listOrWrapped {α : Type} (key : String) (decoder : Decoder α) :
    Decoder (List α) := fun site tree => do
  let _ ← tree.toJson site.level
  let inner : Site := ⟨site.level, .mismatched⟩
  match wrapped? key tree with
  | some value =>
      (Decode.list decoder inner value).mapError fun _ => .mismatched
  | none => (Decode.list decoder inner tree).mapError fun _ => .mismatched

end NodeAdmin.Json
