import NodeAdmin.Double.Text
import NodeAdmin.Json.Basic
import NodeAdmin.Text.Hex

/-!
# JSON texts

A value is written compactly or indented by two spaces a level. Strings escape
quotes, backslashes and control characters and nothing else; a double without a
JSON text is written as null.
-/

namespace NodeAdmin.Json

/-- A character inside a written string. -/
def escape (character : Char) : List Char :=
  if character = '"' then ['\\', '"']
  else if character = '\\' then ['\\', '\\']
  else if character = '\n' then ['\\', 'n']
  else if character = '\r' then ['\\', 'r']
  else if character = '\t' then ['\\', 't']
  else if character.toNat = 8 then ['\\', 'b']
  else if character.toNat = 12 then ['\\', 'f']
  else if character.toNat < 32 then
    '\\' :: 'u' :: Text.lowerHex 4 character.toNat
  else [character]

/-- A string in quotes. -/
def quoted (value : String) : List Char :=
  '"' :: (value.toList.flatMap escape ++ ['"'])

/-- A whole number in decimal. -/
def integerText (value : Int) : List Char :=
  if value < 0 then '-' :: Nat.toDigits 10 value.natAbs
  else Nat.toDigits 10 value.natAbs

def floatText (value : Double) : List Char :=
  match value.jsonText? with
  | some text => text.toList
  | none => "null".toList

def boolText (value : Bool) : List Char :=
  if value then "true".toList else "false".toList

mutual

/-- The text of a value without any white space. -/
def compactText : Json → List Char
  | null => "null".toList
  | bool value => boolText value
  | integer value => integerText value
  | float value => floatText value
  | string value => quoted value
  | array items => '[' :: (compactItems items ++ [']'])
  | object members => '\x7b' :: (compactMembers members ++ ['\x7d'])

def compactItems : List Json → List Char
  | [] => []
  | [item] => compactText item
  | item :: next :: rest => compactText item ++ ',' :: compactItems (next :: rest)

def compactMembers : List (String × Json) → List Char
  | [] => []
  | [(key, value)] => quoted key ++ ':' :: compactText value
  | (key, value) :: next :: rest =>
      quoted key ++ ':' :: (compactText value ++ ',' :: compactMembers (next :: rest))

end

/-- A new line with the indent of a level. -/
def newLine (level : Nat) : List Char := '\n' :: List.replicate (2 * level) ' '

mutual

/-- The text of a value with every item and member on a line of its own; empty
containers stay on one line. -/
def prettyText (level : Nat) : Json → List Char
  | null => "null".toList
  | bool value => boolText value
  | integer value => integerText value
  | float value => floatText value
  | string value => quoted value
  | array [] => ['[', ']']
  | array (item :: items) =>
      '[' :: (prettyItems (level + 1) (item :: items) ++ newLine level ++ [']'])
  | object [] => ['\x7b', '\x7d']
  | object (member :: members) =>
      '\x7b' :: (prettyMembers (level + 1) (member :: members) ++ newLine level ++ ['\x7d'])

def prettyItems (level : Nat) : List Json → List Char
  | [] => []
  | [item] => newLine level ++ prettyText level item
  | item :: next :: rest =>
      newLine level ++ prettyText level item ++ ',' :: prettyItems level (next :: rest)

def prettyMembers (level : Nat) : List (String × Json) → List Char
  | [] => []
  | [(key, value)] => newLine level ++ quoted key ++ ':' :: ' ' :: prettyText level value
  | (key, value) :: next :: rest =>
      newLine level ++ quoted key ++ ':' :: ' ' ::
        (prettyText level value ++ ',' :: prettyMembers level (next :: rest))

end

def compact (value : Json) : String := String.ofList (compactText value)

def pretty (value : Json) : String := String.ofList (prettyText 0 value)

end NodeAdmin.Json
