import NodeAdmin.Text.Hex
import NodeAdmin.Toml.Blank

/-!
# Quoted texts

A text is written in one of four styles: between single quotes as it stands, or
between double quotes with escapes, and either on one line or, between tripled
quotes, on several. The writer takes the first style that shows the text without
escapes, and the reader undoes each of them.
-/

namespace NodeAdmin.Toml.Quoted

inductive Style where
  | basic
  | literal
  | multiBasic
  | multiLiteral
  deriving DecidableEq, Repr

/-! ## Writing -/

/-- Control characters that a text can only hold in escapes. -/
def needsEscape (character : Char) : Bool :=
  (character.toNat < 32 && character != '\t' && character != '\n') ||
    character.toNat == 127

/-- The length of the longest run of a mark in a text that follows `run` marks. -/
def longestRun (mark : Char) (run : Nat) : List Char → Nat
  | [] => run
  | character :: rest =>
      if character = mark then longestRun mark (run + 1) rest
      else Nat.max run (longestRun mark 0 rest)

/-- The style to write a text in. -/
def styleOf (text : List Char) : Style :=
  let escapes := text.any needsEscape
  let backslash := text.contains '\\'
  let lines := text.contains '\n'
  let quotes := longestRun '"' 0 text
  let apostrophes := longestRun '\'' 0 text
  if !escapes && !backslash && quotes == 0 && !lines then .basic
  else if !escapes && apostrophes == 0 && !lines then .literal
  else if !escapes && !backslash && quotes ≤ 2 then .multiBasic
  else if !escapes && apostrophes ≤ 2 then .multiLiteral
  else if lines then .multiBasic
  else .basic

/-- A character other than a quote between double quotes; line feeds stand for
themselves where a text may have several lines. -/
def escapeCharacter (lines : Bool) (character : Char) : List Char :=
  if character = '\t' then ['\\', 't']
  else if character = '\n' then if lines then ['\n'] else ['\\', 'n']
  else if character = '\r' then ['\\', 'r']
  else if character = '\\' then ['\\', '\\']
  else if character.toNat = 8 then ['\\', 'b']
  else if character.toNat = 12 then ['\\', 'f']
  else if character.toNat < 32 ∨ character.toNat = 127 then
    '\\' :: 'u' :: Text.upperHex 4 character.toNat
  else [character]

/-- How many double quotes may stand in a row inside the text. -/
def quoteLimit (lines : Bool) : Nat := if lines then 2 else 0

/-- A text between double quotes that follows `run` quotes. -/
def escapeText (lines : Bool) (run : Nat) : List Char → List Char
  | [] => []
  | character :: rest =>
      if character = '"' then
        if run < quoteLimit lines then '"' :: escapeText lines (run + 1) rest
        else '\\' :: '"' :: escapeText lines 0 rest
      else escapeCharacter lines character ++ escapeText lines 0 rest

/-- The line feed that opens a text of several lines. -/
def opening (text : List Char) : List Char :=
  if text.contains '\n' then ['\n'] else []

/-- A text in quotes. -/
def encode (text : List Char) : List Char :=
  match styleOf text with
  | .basic => '"' :: (escapeText false 0 text ++ ['"'])
  | .literal => '\'' :: (text ++ ['\''])
  | .multiBasic =>
      "\"\"\"".toList ++ opening text ++ escapeText true 0 text ++ "\"\"\"".toList
  | .multiLiteral => "'''".toList ++ opening text ++ text ++ "'''".toList

/-! ## Reading -/

/-- The character of a one-letter escape. -/
def unescape? (letter : Char) : Option Char :=
  if letter = '"' ∨ letter = '\\' then some letter
  else if letter = 'n' then some '\n'
  else if letter = 'r' then some '\r'
  else if letter = 't' then some '\t'
  else if letter = 'b' then some (Char.ofNat 8)
  else if letter = 'f' then some (Char.ofNat 12)
  else none

/-- The character of a code, unless it is half a surrogate pair or too large. -/
def character? (code : Nat) : Option Char :=
  if code.isValidChar then some (Char.ofNat code) else none

/-- Where a reader stands between double quotes: in the text, after a backslash,
before the last `left` digits of a character code, between a backslash and the
line end that it hides, and among the blanks behind such a line end. -/
inductive Place where
  | text
  | escape
  | code (left value : Nat)
  | folding
  | folded
  deriving DecidableEq, Repr

/-- What was read of a text and what follows it. -/
abbrev Step := Option (List Char × List Char)

def prepend (character : Char) (step : Step) : Step :=
  step.map fun read => (character :: read.1, read.2)

/-- Three marks close a text of several lines; up to two marks more in front of
them belong to the text. -/
def closing (mark : Char) (rest : List Char) : List Char × List Char :=
  let extra := (rest.take 2).takeWhile (· == mark)
  (extra, rest.drop extra.length)

/-- Reads a text after its opening double quotes. -/
def readBasic (lines : Bool) : Place → List Char → Step
  | _, [] => none
  | .escape, character :: rest =>
      match unescape? character with
      | some value => prepend value (readBasic lines .text rest)
      | none =>
          if character = 'u' then readBasic lines (.code 4 0) rest
          else if character = 'U' then readBasic lines (.code 8 0) rest
          else if lines && isSpace character then readBasic lines .folding rest
          else if lines && character == '\n' then readBasic lines .folded rest
          else none
  | .code left value, character :: rest =>
      match Text.hexValue? character with
      | none => none
      | some digit =>
          let code := value * 16 + digit
          if left ≤ 1 then
            match character? code with
            | some value => prepend value (readBasic lines .text rest)
            | none => none
          else readBasic lines (.code (left - 1) code) rest
  | .folding, character :: rest =>
      if isSpace character then readBasic lines .folding rest
      else if character = '\n' then readBasic lines .folded rest
      else none
  | place, character :: rest =>
      if place = .folded ∧ (isSpace character ∨ character = '\n') then
        readBasic lines .folded rest
      else if character = '"' then
        if lines then
          match rest with
          | '"' :: '"' :: rest => some (closing '"' rest)
          | _ => prepend '"' (readBasic lines .text rest)
        else some ([], rest)
      else if character = '\\' then readBasic lines .escape rest
      else if isTextCharacter character ∨ (lines ∧ character = '\n') then
        prepend character (readBasic lines .text rest)
      else none

/-- Reads a text after its opening single quotes. -/
def readLiteral (lines : Bool) : List Char → Step
  | [] => none
  | character :: rest =>
      if character = '\'' then
        if lines then
          match rest with
          | '\'' :: '\'' :: rest => some (closing '\'' rest)
          | _ => prepend '\'' (readLiteral lines rest)
        else some ([], rest)
      else if isTextCharacter character ∨ (lines ∧ character = '\n') then
        prepend character (readLiteral lines rest)
      else none

/-- The text after the line feed that opens a text of several lines. -/
def skipOpening : List Char → List Char
  | '\n' :: rest => rest
  | text => text

/-- Reads a quoted text of one line. -/
def decodeLine : List Char → Step
  | '"' :: rest => readBasic false .text rest
  | '\'' :: rest => readLiteral false rest
  | _ => none

/-- Reads a quoted text. -/
def decode : List Char → Step
  | '"' :: '"' :: '"' :: rest => readBasic true .text (skipOpening rest)
  | '\'' :: '\'' :: '\'' :: rest => readLiteral true (skipOpening rest)
  | text => decodeLine text

end NodeAdmin.Toml.Quoted
