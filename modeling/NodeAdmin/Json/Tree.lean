import NodeAdmin.Json.Basic
import NodeAdmin.Json.Numeral
import NodeAdmin.Text.Hex
import NodeAdmin.Text.Utf8

/-!
# JSON texts as trees

A text is read by walking it from left to right and the first problem on the
walk decides the answer. What counts as a problem depends on whether a value is
wanted or passed over: a passed-over string may hold half a surrogate pair and
a passed-over number may be too large. The tree of a text therefore keeps its
problems in place, and a walk meets them in the order of the text.
-/

namespace NodeAdmin.Json

/-- Why a text does not give the wanted value. -/
inductive Fault where
  | malformed
  | truncated
  | mismatched
  deriving DecidableEq, Repr

/-- The tree of a text. A container carries the problem met where its next item
or its end should be; a broken leaf ends the text, with the problem it is for a
walk that wants it and for one that passes over it. -/
inductive Tree where
  | null
  | bool (value : Bool)
  | number (value : Except Fault Numeral)
  | string (value : Except Fault String)
  | array (items : List Tree) (close : Option Fault)
  | object (members : List (Tree × Tree)) (close : Option Fault)
  | broken (wanted passed : Fault)

/-- A tree, and the rest of the text unless the text ended inside the tree. -/
abbrev TreeStep := Tree × Option (List Char)

def brokenStep (fault : Fault) : TreeStep := (.broken fault fault, none)

def isSpace (character : Char) : Bool :=
  character == ' ' || character == '\n' || character == '\t' || character == '\r'

def skipSpace (text : List Char) : List Char := text.dropWhile isSpace

/-! ## Strings -/

/-- The character of a one-letter escape. -/
def unescape? (letter : Char) : Option Char :=
  if letter = '"' ∨ letter = '\\' ∨ letter = '/' then some letter
  else if letter = 'n' then some '\n'
  else if letter = 'r' then some '\r'
  else if letter = 't' then some '\t'
  else if letter = 'b' then some (Char.ofNat 8)
  else if letter = 'f' then some (Char.ofNat 12)
  else none

/-- Too few bytes for four hexadecimal digits end the text; otherwise a
character that is no such digit is at fault. -/
def shortEscapeFault (rest : List Char) : Fault :=
  if (rest.flatMap Text.encodeCharacter).length < 4 then .truncated
  else .malformed

def isHighSurrogate (code : Nat) : Bool := 0xD800 ≤ code && code ≤ 0xDBFF

def isLowSurrogate (code : Nat) : Bool := 0xDC00 ≤ code && code ≤ 0xDFFF

/-- The character of a surrogate pair. -/
def pairCharacter (high low : Nat) : Char :=
  Char.ofNat ((high - 0xD800) * 0x400 + (low - 0xDC00) + 0x10000)

def prepend (character : Char) (read : Except Fault (List Char × List Char)) :
    Except Fault (List Char × List Char) :=
  read.map fun step => (character :: step.1, step.2)

/-- Reads a string after its opening quote: its characters and the rest of the
text. A high surrogate that waits for its other half is carried along. -/
def readCharacters (high : Option Nat) :
    List Char → Except Fault (List Char × List Char)
  | [] => .error .truncated
  | '"' :: rest => if high.isSome then .error .malformed else .ok ([], rest)
  | ['\\'] => .error .truncated
  | '\\' :: 'u' :: a :: b :: c :: d :: rest =>
      match Text.hexNumber? [a, b, c, d], high with
      | none, _ => .error .malformed
      | some low, some high =>
          if isLowSurrogate low then
            prepend (pairCharacter high low) (readCharacters none rest)
          else .error .malformed
      | some code, none =>
          if isLowSurrogate code then .error .malformed
          else if isHighSurrogate code then readCharacters (some code) rest
          else prepend (Char.ofNat code) (readCharacters none rest)
  | '\\' :: 'u' :: rest => .error (shortEscapeFault rest)
  | '\\' :: letter :: rest =>
      match unescape? letter, high with
      | some character, none => prepend character (readCharacters none rest)
      | _, _ => .error .malformed
  | character :: rest =>
      if high.isSome ∨ character.toNat < 32 then .error .malformed
      else prepend character (readCharacters none rest)

/-- Passes over a string after its opening quote. -/
def passCharacters : List Char → Except Fault (List Char)
  | [] => .error .truncated
  | '"' :: rest => .ok rest
  | ['\\'] => .error .truncated
  | '\\' :: 'u' :: a :: b :: c :: d :: rest =>
      match Text.hexNumber? [a, b, c, d] with
      | none => .error .malformed
      | some _ => passCharacters rest
  | '\\' :: 'u' :: rest => .error (shortEscapeFault rest)
  | '\\' :: letter :: rest =>
      match unescape? letter with
      | some _ => passCharacters rest
      | none => .error .malformed
  | character :: rest =>
      if character.toNat < 32 then .error .malformed else passCharacters rest

/-- The leaf of a string. Where passing over it fails, so does reading it. -/
def stringStep (text : List Char) : TreeStep :=
  match readCharacters none text, passCharacters text with
  | .ok (characters, _), .ok rest => (.string (.ok (String.ofList characters)), some rest)
  | .error wanted, .ok rest => (.string (.error wanted), some rest)
  | .error wanted, .error passed => (.broken wanted passed, none)
  | .ok _, .error passed => brokenStep passed

/-! ## Numbers -/

/-- Digits that must be there: without any, a text that ends is truncated for a
walk that wants the number. -/
def requiredDigits (text : List Char) : Except TreeStep (List Char × List Char) :=
  match text.head? with
  | none => .error (.broken .truncated .malformed, none)
  | some first =>
      if first.isDigit then .ok (takeDigits text)
      else .error (brokenStep .malformed)

/-- The whole part: one zero, or digits that do not start with zero. -/
def wholeDigits (text : List Char) : Except TreeStep (List Char × List Char) := do
  let digits ← requiredDigits text
  match digits.1 with
  | '0' :: _ :: _ => .error (brokenStep .malformed)
  | _ => .ok digits

def fractionDigits (text : List Char) :
    Except TreeStep (Bool × List Char × List Char) :=
  match text with
  | '.' :: rest => do
      let digits ← requiredDigits rest
      .ok (true, digits.1, digits.2)
  | _ => .ok (false, [], text)

def exponentDigits (text : List Char) :
    Except TreeStep (Bool × Bool × List Char × List Char) :=
  match text with
  | mark :: rest =>
      if mark = 'e' ∨ mark = 'E' then do
        let signed := takeSign rest
        let digits ← requiredDigits signed.2
        .ok (true, signed.1, digits.1, digits.2)
      else .ok (false, false, [], text)
  | [] => .ok (false, false, [], [])

/-- The leaf of a number with the sign already taken. -/
def unsignedStep (negative : Bool) (text : List Char) : Except TreeStep TreeStep := do
  let whole ← wholeDigits text
  let (hasFraction, fraction, afterFraction) ← fractionDigits whole.2
  let (hasExponent, exponentNegative, exponent, rest) ←
    exponentDigits afterFraction
  let parts : NumeralParts :=
    ⟨negative, whole.1, fraction, hasFraction, exponentNegative, exponent, hasExponent⟩
  match parts.value? with
  | some value => .ok (.number (.ok value), some rest)
  | none => .ok (.number (.error .malformed), some rest)

def numberStep (text : List Char) : TreeStep :=
  let step := match text with
    | '-' :: rest => unsignedStep true rest
    | _ => unsignedStep false text
  match step with
  | .ok step => step
  | .error step => step

/-! ## Words and containers -/

/-- The rest of a word such as `null` after its first letter. -/
def wordStep (value : Tree) : List Char → List Char → TreeStep
  | [], text => (value, some text)
  | _ :: _, [] => brokenStep .truncated
  | letter :: letters, character :: text =>
      if letter = character then wordStep value letters text
      else brokenStep .malformed

/-- Whether an item, an end or a problem follows in a container. -/
inductive Next where
  | item (text : List Char)
  | finished (rest : List Char)
  | problem (fault : Fault)

/-- What follows in a container: its end, or an item that is preceded by a comma
unless it is the first. -/
def next (closing : Char) (first : Bool) (text : List Char) : Next :=
  match skipSpace text with
  | [] => .problem .truncated
  | character :: rest =>
      if character = closing then .finished rest
      else if first then .item (character :: rest)
      else if character = ',' then
        match skipSpace rest with
        | [] => .item []
        | following :: others =>
            if following = closing then .problem .malformed
            else .item (following :: others)
      else .problem .malformed

/-- The leaf of a key: a string, and nothing else. -/
def keyStep (text : List Char) : TreeStep :=
  match text with
  | [] => brokenStep .truncated
  | '"' :: rest => stringStep rest
  | _ => brokenStep .malformed

mutual

/-- The tree of the value at the front of a text. Of two nested calls at least one
has read a character, so twice the length of the text is fuel enough. -/
def treeStep : Nat → List Char → TreeStep
  | 0, _ => brokenStep .truncated
  | fuel + 1, text =>
      match skipSpace text with
      | [] => brokenStep .truncated
      | '"' :: rest => stringStep rest
      | '[' :: rest =>
          let items := itemSteps fuel true rest
          (.array items.1 items.2.1, items.2.2)
      | '\x7b' :: rest =>
          let members := memberSteps fuel true rest
          (.object members.1 members.2.1, members.2.2)
      | 'n' :: rest => wordStep .null "ull".toList rest
      | 't' :: rest => wordStep (.bool true) "rue".toList rest
      | 'f' :: rest => wordStep (.bool false) "alse".toList rest
      | character :: rest =>
          if character = '-' ∨ character.isDigit then
            numberStep (character :: rest)
          else brokenStep .malformed

/-- The items of an array, its problem if it has one, and the rest of the text. -/
def itemSteps : Nat → Bool → List Char →
    List Tree × Option Fault × Option (List Char)
  | 0, _, _ => ([], some .truncated, none)
  | fuel + 1, first, text =>
      match next ']' first text with
      | .finished rest => ([], none, some rest)
      | .problem fault => ([], some fault, none)
      | .item text =>
          let item := treeStep fuel text
          match item.2 with
          | none => ([item.1], none, none)
          | some rest =>
              let others := itemSteps fuel false rest
              (item.1 :: others.1, others.2)

/-- The members of an object likewise. -/
def memberSteps : Nat → Bool → List Char →
    List (Tree × Tree) × Option Fault × Option (List Char)
  | 0, _, _ => ([], some .truncated, none)
  | fuel + 1, first, text =>
      match next '\x7d' first text with
      | .finished rest => ([], none, some rest)
      | .problem fault => ([], some fault, none)
      | .item text =>
          let key := keyStep text
          match key.2 with
          | none => ([(key.1, key.1)], none, none)
          | some rest =>
              match skipSpace rest with
              | ':' :: rest =>
                  let value := treeStep fuel rest
                  match value.2 with
                  | none => ([(key.1, value.1)], none, none)
                  | some rest =>
                      let others := memberSteps fuel false rest
                      ((key.1, value.1) :: others.1, others.2)
              | [] => ([(key.1, .broken .truncated .truncated)], none, none)
              | _ => ([(key.1, .broken .malformed .malformed)], none, none)

end

/-- The tree of a text and the rest of the text after it. -/
def Tree.ofText (text : List Char) : TreeStep := treeStep (2 * text.length + 2) text

end NodeAdmin.Json
