import NodeAdmin.Toml.Value

/-!
# TOML documents

A document is a sequence of lines: headers that start tables, and entries that go
into the table started last.
-/

namespace NodeAdmin.Toml

/-- A document that is being read: its table, and the path to the table that was
started last. -/
structure Draft where
  root : Table
  current : Path

namespace Draft

def empty : Draft := ⟨.empty .headed, []⟩

/-- Adds an entry to the current table. -/
def add? (path : Path) (key : String) (value : Toml) (draft : Draft) : Option Draft :=
  (alter? .passed (addAt? path key value) draft.current draft.root).map fun root =>
    { draft with root := root }

/-- Starts another table, or another one of a list. -/
def start? (listed : Bool) (path : Path) (key : String) (draft : Draft) : Option Draft :=
  let start := if listed then startListed? key else startTable? key
  (alter? .passed start path draft.root).map fun root => ⟨root, path ++ [key]⟩

end Draft

/-- A header after its opening brackets. -/
def header? (listed : Bool) (draft : Draft) (text : List Char) :
    Option (Draft × List Char) := do
  let (path, key, rest) ← key? text
  let rest ← after? ']' rest
  let rest ← if listed then after? ']' rest else some rest
  let rest ← finishLine? rest
  let draft ← draft.start? listed path key
  some (draft, rest)

/-- A key and its value. -/
def entry? (draft : Draft) (text : List Char) : Option (Draft × List Char) := do
  let (path, key, rest) ← key? text
  let (value, rest) ← value? (skipSpaces (← after? '=' rest))
  let rest ← finishLine? rest
  let draft ← draft.add? path key value
  some (draft, rest)

/-- One line that holds something. -/
def line? (draft : Draft) (text : List Char) : Option (Draft × List Char) :=
  match text with
  | '[' :: '[' :: rest => header? true draft rest
  | '[' :: rest => header? false draft rest
  | character :: _ =>
      if character = '#' ∨ character = '\n' then
        (finishLine? text).map fun rest => (draft, rest)
      else entry? draft text
  | [] => none

/-- The lines of a document. Each line takes a character, so the length of the
text is fuel enough. -/
def lines? : Nat → Draft → List Char → Option Draft
  | 0, _, _ => none
  | fuel + 1, draft, text =>
      match skipSpaces text with
      | [] => some draft
      | rest => do
          let (draft, rest) ← line? draft rest
          lines? fuel draft rest

/-- The text after a byte order mark at its front. -/
def skipMark : List Char → List Char
  | '\uFEFF' :: rest => rest
  | text => text

/-- The entries of a document. -/
def document? (text : String) : Option Entries := do
  let text ← unifyLineEnds? (skipMark text.toList)
  let draft ← lines? (text.length + 1) .empty text
  some draft.root.entries

end NodeAdmin.Toml
