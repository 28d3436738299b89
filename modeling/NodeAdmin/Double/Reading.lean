import NodeAdmin.Double.Rounding

/-!
# Reading decimals

A decimal given on the command line is an optional sign followed by digits with
at most one point and an optional exponent, or one of the words `inf`,
`infinity` and `nan` in any case. Its value is the nearest double.
-/

namespace NodeAdmin

/-- The digits at the front of a text and what follows them. -/
def takeDigits (text : List Char) : List Char × List Char :=
  (text.takeWhile Char.isDigit, text.dropWhile Char.isDigit)

/-- The number that a list of decimal digits spells. -/
def digitsValue (digits : List Char) : Nat :=
  digits.foldl (fun value digit => value * 10 + (digit.toNat - 48)) 0

/-- An optional sign and what follows it. -/
def takeSign : List Char → Bool × List Char
  | '-' :: rest => (true, rest)
  | '+' :: rest => (false, rest)
  | text => (false, text)

/-- An exponent part: nothing, or a mark with at least one digit. -/
def readExponent : List Char → Option Int
  | [] => some 0
  | mark :: rest =>
      if mark = 'e' ∨ mark = 'E' then
        let signed := takeSign rest
        let digits := takeDigits signed.2
        if digits.1.isEmpty ∨ ¬ digits.2.isEmpty then none
        else
          let size : Int := digitsValue digits.1
          some (if signed.1 then -size else size)
      else none

namespace Double

/-- Digits with at most one point; at least one digit on either side. -/
def readUnsigned (negative : Bool) (text : List Char) : Option Double :=
  let whole := takeDigits text
  let fraction := match whole.2 with
    | '.' :: rest => takeDigits rest
    | rest => ([], rest)
  if whole.1.isEmpty ∧ fraction.1.isEmpty then none
  else
    (readExponent fraction.2).map fun exponent =>
      ofDecimal negative (digitsValue (whole.1 ++ fraction.1))
        (exponent - (fraction.1.length : Int))

/-- The double that a decimal text spells, if it spells one. -/
def read? (text : String) : Option Double :=
  let signed := takeSign text.toList
  let word := signed.2.map Char.toLower
  if word = "inf".toList ∨ word = "infinity".toList then
    some (.number signed.1 Magnitude.infinite)
  else if word = "nan".toList then some .nan
  else readUnsigned signed.1 signed.2

end Double

end NodeAdmin
