import NodeAdmin.Toml.Moment
import NodeAdmin.Toml.Quoted
import NodeAdmin.Toml.Table

/-!
# Reading TOML keys and values

Values may hold values, but only to a limited depth, and the same limit holds for
the number of parts of a key.
-/

namespace NodeAdmin.Toml

/-- Nothing is nested this deep. -/
def depthLimit : Nat := 80

/-! ## Keys -/

/-- The characters of keys without quotes. -/
def isKeyCharacter (character : Char) : Bool :=
  character.isAlphanum || character == '_' || character == '-'

/-- One part of a key: a quoted text of one line, or key characters. -/
def keyPart? (text : List Char) : Option (String × List Char) :=
  match text with
  | [] => none
  | character :: _ =>
      if character = '"' ∨ character = '\'' then
        (Quoted.decodeLine text).map fun read => (String.ofList read.1, read.2)
      else if isKeyCharacter character then
        some (String.ofList (text.takeWhile isKeyCharacter),
          text.dropWhile isKeyCharacter)
      else none

/-- The parts of a key with points between them. Each part takes a character, so
the length of the text is fuel enough. -/
def keyParts? : Nat → List Char → Option (Path × List Char)
  | 0, _ => none
  | fuel + 1, text => do
      let (part, rest) ← keyPart? (skipSpaces text)
      match skipSpaces rest with
      | '.' :: rest =>
          let (parts, rest) ← keyParts? fuel rest
          some (part :: parts, rest)
      | rest => some ([part], rest)

/-- A key with blanks around it, as the path to its table and its last part. -/
def key? (text : List Char) : Option (Path × String × List Char) := do
  let (parts, rest) ← keyParts? (text.length + 1) text
  let last ← parts.getLast?
  if parts.length < depthLimit then some (parts.dropLast, last, rest) else none

/-! ## Values -/

/-- A value that holds no other values. -/
def scalar? (text : List Char) : Option (Toml × List Char) :=
  match Text.afterStart? "true".toList text, Text.afterStart? "false".toList text with
  | some rest, _ => some (.bool true, rest)
  | none, some rest => some (.bool false, rest)
  | none, none =>
      match moment? text with
      | some read => some read
      | none => number? text

mutual

/-- The value at the front of a text, inside `depth` other values. A value that is
read has at least one character for every nested call, counting the brackets that
close it, so the length of the text is fuel enough. -/
def valueStep? : Nat → Nat → List Char → Option (Toml × List Char)
  | 0, _, _ => none
  | fuel + 1, depth, text =>
      match text with
      | [] => none
      | '[' :: rest =>
          if depthLimit ≤ depth + 1 then none
          else (itemsStep? fuel (depth + 1) rest).map fun read => (.array read.1, read.2)
      | '\x7b' :: rest =>
          if depthLimit ≤ depth + 1 then none
          else
            match skipSpaces rest with
            | '\x7d' :: rest => some ((Table.empty .braced).toToml, rest)
            | rest =>
                (entriesStep? fuel (depth + 1) (.empty .braced) rest).map fun read =>
                  (read.1.toToml, read.2)
      | character :: _ =>
          if character = '"' ∨ character = '\'' then
            (Quoted.decode text).map fun read => (.string (String.ofList read.1), read.2)
          else scalar? text

/-- The items of an array that is open; a comma may follow the last one. -/
def itemsStep? : Nat → Nat → List Char → Option (List Toml × List Char)
  | 0, _, _ => none
  | fuel + 1, depth, text => do
      match ← skipGap? false text with
      | ']' :: rest => some ([], rest)
      | rest =>
          let (item, rest) ← valueStep? fuel depth rest
          match ← skipGap? false rest with
          | ']' :: rest => some ([item], rest)
          | ',' :: rest =>
              let (items, rest) ← itemsStep? fuel depth rest
              some (item :: items, rest)
          | _ => none

/-- The entries of a table in braces that is open, added to those so far. -/
def entriesStep? : Nat → Nat → Table → List Char → Option (Table × List Char)
  | 0, _, _, _ => none
  | fuel + 1, depth, target, text => do
      let (path, key, rest) ← key? text
      let (value, rest) ← valueStep? fuel depth (skipSpaces (← after? '=' rest))
      let target ← addAt? path key value target
      match skipSpaces rest with
      | '\x7d' :: rest => some (target, rest)
      | ',' :: rest => entriesStep? fuel depth target rest
      | _ => none

end

/-- The value at the front of a text. -/
def value? (text : List Char) : Option (Toml × List Char) :=
  valueStep? (text.length + 1) 0 text

end NodeAdmin.Toml
