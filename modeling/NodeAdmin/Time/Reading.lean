import NodeAdmin.Double.Reading
import NodeAdmin.Text.Blank
import NodeAdmin.Time.Instant

/-!
# Reading timestamps

A timestamp is read as an RFC 3339 date and time. Failing that it is read as a
date and time without a zone, which counts as UTC: joined by a `T` or by blanks,
with a fraction after a point, or joined by blanks with three digits after a
comma. These forms also take unpadded numbers, blanks before numbers and a
signed year.
-/

namespace NodeAdmin.Time

/-- At least `least` and at most `most` digits as a number. -/
def readNumber (least most : Nat) (text : List Char) : Option (Nat × List Char) :=
  let digits := (text.takeWhile Char.isDigit).take most
  if digits.length < least then none
  else some (digitsValue digits, text.drop digits.length)

def readCharacter (expected : Char) : List Char → Option (List Char)
  | [] => none
  | character :: rest => if character = expected then some rest else none

/-- The nanoseconds of the digits of a fraction; those past the ninth are cut. -/
def fractionNanos (digits : List Char) : Nat :=
  let counted := digits.take 9
  digitsValue counted * Nat.pow 10 (9 - counted.length)

/-- A fraction after a point, if there is one. A point needs a digit. -/
def readFraction (text : List Char) : Option (Nat × List Char) :=
  match text with
  | '.' :: rest =>
      let digits := takeDigits rest
      if digits.1.isEmpty then none else some (fractionNanos digits.1, digits.2)
  | _ => some (0, text)

/-! ## RFC 3339 -/

def minusSign : Char := '\u2212'

/-- Hours and minutes of an offset in seconds. -/
def readOffsetSize (text : List Char) : Option (Int × List Char) := do
  let (hours, text) ← readNumber 2 2 text
  let text ← readCharacter ':' text
  let (minutes, text) ← readNumber 2 2 text
  if minutes < 60 then some ((hours * 3600 + minutes * 60 : Nat), text) else none

/-- A zone: the letter of UTC, or an offset of less than a day. -/
def readZone : List Char → Option (Int × List Char)
  | [] => none
  | mark :: rest =>
      if mark = 'Z' ∨ mark = 'z' then some (0, rest)
      else do
        let (size, rest) ← readOffsetSize rest
        if secondsPerDay ≤ size then none
        else if mark = '+' then some (size, rest)
        else if mark = '-' ∨ mark = minusSign then some (-size, rest)
        else none

def readJoint : List Char → Option (List Char)
  | [] => none
  | mark :: rest =>
      if mark = 'T' ∨ mark = 't' ∨ mark = ' ' then some rest else none

/-- An RFC 3339 date and time, and nothing after it. -/
def readRfc3339 (text : List Char) : Option Instant := do
  let (year, text) ← readNumber 4 4 text
  let text ← readCharacter '-' text
  let (month, text) ← readNumber 2 2 text
  let text ← readCharacter '-' text
  let (day, text) ← readNumber 2 2 text
  let text ← readJoint text
  let (hour, text) ← readNumber 2 2 text
  let text ← readCharacter ':' text
  let (minute, text) ← readNumber 2 2 text
  let text ← readCharacter ':' text
  let (second, text) ← readNumber 2 2 text
  let (nanos, text) ← readFraction text
  let (offset, text) ← readZone text
  let instant ← Instant.ofCivil ⟨year, month, day⟩ ⟨hour, minute, second, nanos⟩
  if text.isEmpty then some (instant.atOffset offset) else none

/-! ## Forms without a zone -/

/-- How date and time are joined in a form without a zone. -/
inductive Joint where
  | letter
  | blanks
  deriving DecidableEq, Repr

/-- How the fraction is written in a form without a zone. -/
inductive FractionMark where
  | point
  | comma
  deriving DecidableEq, Repr

def readLooseNumber (text : List Char) : Option (Nat × List Char) :=
  readNumber 1 2 (Text.trimFront text)

/-- A year: up to four digits, or a sign and any number of digits. -/
def readLooseYear (text : List Char) : Option (Int × List Char) :=
  match Text.trimFront text with
  | '-' :: rest =>
      (readNumber 1 rest.length rest).map fun read => (-(read.1 : Int), read.2)
  | '+' :: rest =>
      (readNumber 1 rest.length rest).map fun read => ((read.1 : Int), read.2)
  | rest => (readNumber 1 4 rest).map fun read => ((read.1 : Int), read.2)

def Joint.read : Joint → List Char → Option (List Char)
  | letter, text => readCharacter 'T' text
  | blanks, text => some (Text.trimFront text)

def FractionMark.read : FractionMark → List Char → Option (Nat × List Char)
  | point, text => readFraction text
  | comma, text => do
      let text ← readCharacter ',' text
      let (millis, text) ← readNumber 3 3 text
      some (millis * 1000000, text)

/-- A date and time without a zone, and nothing after it. -/
def readZoneless (joint : Joint) (mark : FractionMark) (text : List Char) :
    Option Instant := do
  let (year, text) ← readLooseYear text
  let text ← readCharacter '-' text
  let (month, text) ← readLooseNumber text
  let text ← readCharacter '-' text
  let (day, text) ← readLooseNumber text
  let text ← joint.read text
  let (hour, text) ← readLooseNumber text
  let text ← readCharacter ':' text
  let (minute, text) ← readLooseNumber text
  let text ← readCharacter ':' text
  let (second, text) ← readLooseNumber text
  let (nanos, text) ← mark.read text
  let instant ← Instant.ofCivil ⟨year, month, day⟩ ⟨hour, minute, second, nanos⟩
  if text.isEmpty then some instant else none

/-- The instant of a timestamp in any of its forms. -/
def Instant.read? (raw : String) : Option Instant :=
  let text := (Text.trim raw).toList
  readRfc3339 text
    <|> readZoneless .letter .point text
    <|> readZoneless .blanks .point text
    <|> readZoneless .blanks .comma text

end NodeAdmin.Time
