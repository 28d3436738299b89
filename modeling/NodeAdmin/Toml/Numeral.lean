import NodeAdmin.Double.Reading
import NodeAdmin.Text.Hex
import NodeAdmin.Text.Pieces
import NodeAdmin.Toml.Basic
import NodeAdmin.Word.Bounds

/-!
# TOML numbers

Single underscores may stand between the digits of a number. Whole numbers have
64 bits and may be given to the bases 2, 8 and 16; a number too large for a
double is refused, while one too far below zero counts as infinite.
-/

namespace NodeAdmin.Toml

/-- At least one digit, with single underscores between digits left out. -/
def groupedDigits? (isDigit : Char → Bool) : List Char → Option (List Char × List Char)
  | [] => none
  | digit :: rest =>
      if isDigit digit then
        match rest with
        | '_' :: others =>
            (groupedDigits? isDigit others).map fun read => (digit :: read.1, read.2)
        | next :: others =>
            if isDigit next then
              (groupedDigits? isDigit (next :: others)).map fun read =>
                (digit :: read.1, read.2)
            else some ([digit], next :: others)
        | [] => some ([digit], [])
      else none

/-- The digits of a whole number: a zero stands alone. -/
def wholeDigits? : List Char → Option (List Char × List Char)
  | '0' :: rest => some (['0'], rest)
  | text => groupedDigits? Char.isDigit text

/-- The digits behind a point, if there is a point. -/
def fractionDigits? : List Char → Option (Option (List Char) × List Char)
  | '.' :: rest =>
      (groupedDigits? Char.isDigit rest).map fun read => (some read.1, read.2)
  | text => some (none, text)

/-- The exponent behind its mark, if there is a mark. -/
def exponent? : List Char → Option (Option Int × List Char)
  | mark :: rest =>
      if mark = 'e' ∨ mark = 'E' then
        let signed := takeSign rest
        (groupedDigits? Char.isDigit signed.2).map fun read =>
          let size : Int := digitsValue read.1
          (some (if signed.1 then -size else size), read.2)
      else some (none, mark :: rest)
  | [] => some (none, [])

/-- A whole number of 64 bits. -/
def integer? (value : Int) : Option Toml :=
  if Word.isSigned64 value then some (.integer value) else none

/-- A double; the infinity above all numbers is no value of a decimal. -/
def float? (value : Double) : Option Toml :=
  if value = Double.infinity then none else some (.float value)

/-- The number that parts spell. -/
def numberOf? (negative : Bool) (whole : List Char) (fraction : Option (List Char))
    (exponent : Option Int) : Option Toml :=
  if fraction.isNone ∧ exponent.isNone then
    let size : Int := digitsValue whole
    integer? (if negative then -size else size)
  else
    let digits := fraction.getD []
    float? (Double.ofDecimal negative (digitsValue (whole ++ digits))
      (exponent.getD 0 - (digits.length : Int)))

/-- A decimal number with its sign taken. -/
def decimal? (negative : Bool) (text : List Char) : Option (Toml × List Char) := do
  let (whole, rest) ← wholeDigits? text
  let (fraction, rest) ← fractionDigits? rest
  let (exponent, rest) ← exponent? rest
  let value ← numberOf? negative whole fraction exponent
  some (value, rest)

/-- One of the words for values that are no numbers, with its sign taken. -/
def special? (negative : Bool) (text : List Char) : Option (Toml × List Char) :=
  match Text.afterStart? "inf".toList text, Text.afterStart? "nan".toList text with
  | some rest, _ => some (.float (.number negative Magnitude.infinite), rest)
  | none, some rest => some (.float .nan, rest)
  | none, none => none

def isDigitOf (base : Nat) (character : Char) : Bool :=
  match Text.hexValue? character with
  | some value => value < base
  | none => false

/-- A whole number to another base, after its mark. -/
def based? (base : Nat) (text : List Char) : Option (Toml × List Char) := do
  let (digits, rest) ← groupedDigits? (isDigitOf base) text
  let size := digits.foldl (fun size digit =>
    size * base + (Text.hexValue? digit).getD 0) 0
  let value ← integer? size
  some (value, rest)

/-- A number. -/
def number? : List Char → Option (Toml × List Char)
  | '0' :: 'x' :: rest => based? 16 rest
  | '0' :: 'o' :: rest => based? 8 rest
  | '0' :: 'b' :: rest => based? 2 rest
  | text =>
      let signed := takeSign text
      match special? signed.1 signed.2 with
      | some read => some read
      | none => decimal? signed.1 signed.2

end NodeAdmin.Toml
