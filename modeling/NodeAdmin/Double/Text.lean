import NodeAdmin.Double.Arithmetic
import NodeAdmin.Double.Shortest

/-!
# Written forms of doubles

Three forms are in use: the text of a number in a JSON document, a plain
positional text for messages, and amounts with a fixed number of decimal
places.
-/

namespace NodeAdmin.Double

/-- Digits with the point set so that the last digit stands at `10 ^ exponent`,
without a fraction when there is none. -/
def positional (decimal : Decimal) : List Char :=
  let digits := decimal.digits
  if 0 ≤ decimal.exponent then digits ++ List.replicate decimal.exponent.toNat '0'
  else
    let places := (-decimal.exponent).toNat
    if places < digits.length then
      digits.take (digits.length - places) ++
        '.' :: digits.drop (digits.length - places)
    else '0' :: '.' :: (List.replicate (places - digits.length) '0' ++ digits)

/-- One digit, the rest after a point if there is a rest, and the exponent with
its sign. -/
def scientific (decimal : Decimal) : List Char :=
  let mantissa := match decimal.digits with
    | first :: second :: rest => first :: '.' :: second :: rest
    | digits => digits
  let exponent := decimal.scale
  let sign := if exponent < 0 then '-' else '+'
  mantissa ++ 'e' :: sign :: Nat.toDigits 10 exponent.natAbs

def signText (negative : Bool) : String := if negative then "-" else ""

/-- The text of a double in a JSON document, absent for infinities and
not-a-number. Magnitudes from `10 ^ -5` up to `10 ^ 16` are positional and
always have a point. -/
def jsonText? : Double → Option String
  | nan => none
  | number negative magnitude =>
      if isInfiniteMagnitude magnitude then none
      else
        let decimal := magnitude.shortest .toEven
        let body :=
          if -5 ≤ decimal.scale ∧ decimal.scale < 16 then
            if 0 ≤ decimal.exponent then positional decimal ++ ['.', '0']
            else positional decimal
          else scientific decimal
        some (signText negative ++ String.ofList body)

/-- The plain text of a double: its shortest digits, never an exponent. -/
def plainText : Double → String
  | nan => "NaN"
  | number negative magnitude =>
      signText negative ++
        if isInfiniteMagnitude magnitude then "inf"
        else String.ofList (positional (magnitude.shortest .upward))

/-- The exact value rounded to a number of decimal places, a tie going to the
even digit. A negative zero keeps its sign. -/
def fixedText (places : Nat) : Double → String
  | nan => "NaN"
  | number negative magnitude =>
      signText negative ++
        if isInfiniteMagnitude magnitude then "inf"
        else
          let unit := Nat.pow 10 places
          let scaled := roundQuotient (magnitude.units * unit) unitsPerOne
          let fraction := Nat.toDigits 10 (scaled % unit)
          let whole := Nat.toDigits 10 (scaled / unit)
          if places = 0 then String.ofList whole
          else String.ofList
            (whole ++ '.' ::
              (List.replicate (places - fraction.length) '0' ++ fraction))

end NodeAdmin.Double
