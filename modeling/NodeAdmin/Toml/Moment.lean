import NodeAdmin.Time.Calendar
import NodeAdmin.Toml.Numeral

/-!
# TOML dates and times

A moment is a date, a time of day, or a date with a time of day and perhaps an
offset. All of its parts have a fixed number of digits.
-/

namespace NodeAdmin.Toml

/-- Exactly two digits with a value between bounds. -/
def twoDigits? (lowest highest : Nat) : List Char → Option (Nat × List Char)
  | first :: second :: rest =>
      let value := digitsValue [first, second]
      if first.isDigit ∧ second.isDigit ∧ lowest ≤ value ∧ value ≤ highest then
        some (value, rest)
      else none
  | _ => none

/-- The text after a character that must be there. -/
def after? (expected : Char) : List Char → Option (List Char)
  | character :: rest => if character = expected then some rest else none
  | [] => none

/-- The text after a date. -/
def skipDate? (text : List Char) : Option (List Char) := do
  let (century, rest) ← twoDigits? 0 99 text
  let (year, rest) ← twoDigits? 0 99 rest
  let (month, rest) ← twoDigits? 1 12 (← after? '-' rest)
  let (day, rest) ← twoDigits? 1 31 (← after? '-' rest)
  if (Time.CivilDate.mk (century * 100 + year) month day).isValid then some rest
  else none

/-- The text after a fraction of a second, if there is one. -/
def skipFraction : List Char → List Char
  | '.' :: digit :: rest =>
      if digit.isDigit then rest.dropWhile Char.isDigit else '.' :: digit :: rest
  | text => text

/-- The text after a time of day; second 60 is a leap second. -/
def skipTime? (text : List Char) : Option (List Char) := do
  let (_, rest) ← twoDigits? 0 23 text
  let (_, rest) ← twoDigits? 0 59 (← after? ':' rest)
  let (_, rest) ← twoDigits? 0 60 (← after? ':' rest)
  some (skipFraction rest)

/-- The text after an offset, if there is one. -/
def skipOffset? : List Char → Option (List Char)
  | mark :: rest =>
      if mark = 'Z' ∨ mark = 'z' then some rest
      else if mark = '+' ∨ mark = '-' then do
        let (_, rest) ← twoDigits? 0 23 rest
        let (_, rest) ← twoDigits? 0 59 (← after? ':' rest)
        some rest
      else some (mark :: rest)
  | [] => some []

/-- The text after the time of day that belongs to a date, if there is one. -/
def skipTimeOfDate? : List Char → Option (List Char)
  | mark :: rest =>
      if mark = 'T' ∨ mark = 't' ∨ mark = ' ' then
        match skipTime? rest with
        | some rest => skipOffset? rest
        | none => some (mark :: rest)
      else some (mark :: rest)
  | [] => some []

/-- The text after a moment. -/
def skipMoment? (text : List Char) : Option (List Char) :=
  match skipDate? text with
  | some rest => skipTimeOfDate? rest
  | none => skipTime? text

/-- A moment. -/
def moment? (text : List Char) : Option (Toml × List Char) :=
  (skipMoment? text).map fun rest =>
    (.moment (String.ofList (text.take (text.length - rest.length))), rest)

end NodeAdmin.Toml
