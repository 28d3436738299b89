/-!
# Punycode

A label with characters beyond ASCII is written as its ASCII characters followed
by the positions and distances of the others, in the order of their codes. A
number has digits to base 36 whose thresholds follow a bias, which adapts to the
distances seen so far.

Reading undoes this, and refuses what is no number, numbers that do not fit in 32
bits, and codes that are no characters.
-/

namespace NodeAdmin.Domain.Punycode

def digit (value : Nat) : Char :=
  if value < 26 then Char.ofNat (97 + value) else Char.ofNat (22 + value)

/-- The value of a digit. -/
def digitValue? (character : Char) : Option Nat :=
  let code := character.toNat
  if 97 ≤ code ∧ code ≤ 122 then some (code - 97)
  else if 48 ≤ code ∧ code ≤ 57 then some (code - 22)
  else none

/-- The threshold of the digit at a place that is a multiple of 36. -/
def threshold (bias place : Nat) : Nat :=
  if place ≤ bias + 1 then 1 else if bias + 26 ≤ place then 26 else place - bias

theorem threshold_pos (bias place : Nat) : 1 ≤ threshold bias place := by
  unfold threshold
  split
  · exact Nat.le_refl 1
  · split <;> omega

/-- Divides a distance until it is small and counts the digits this saves. -/
def settle (distance saved : Nat) : Nat :=
  if 455 < distance then settle (distance / 35) (saved + 36)
  else saved + 36 * distance / (distance + 38)
  termination_by distance
  decreasing_by exact Nat.div_lt_self (by omega) (by omega)

/-- The bias after a distance, with that many characters written. -/
def adapt (isFirst : Bool) (distance written : Nat) : Nat :=
  let damped := if isFirst then distance / 700 else distance / 2
  settle (damped + damped / written) 0

/-! ## Writing -/

/-- The digits of a number, the lowest one first. -/
def digits (bias place value : Nat) : List Char :=
  let least := threshold bias place
  if value < least then [digit value]
  else
    digit (least + (value - least) % (36 - least)) ::
      digits bias (place + 36) ((value - least) / (36 - least))
  termination_by value
  decreasing_by
    have positive := threshold_pos bias place
    have smaller := Nat.div_le_self (value - threshold bias place)
      (36 - threshold bias place)
    omega

/-- What was written so far: the digits, the distance since the last character,
the bias, and how many characters are written. -/
structure Progress where
  output : List Char
  distance : Nat
  bias : Nat
  written : Nat

/-- Goes past one character of the label while the characters with code `code`
are written. -/
def visit (basics code : Nat) (progress : Progress) (character : Char) : Progress :=
  if character.toNat < code then { progress with distance := progress.distance + 1 }
  else if character.toNat = code then
    { output := progress.output ++ digits progress.bias 36 progress.distance
      distance := 0
      bias := adapt (progress.written == basics) progress.distance (progress.written + 1)
      written := progress.written + 1 }
  else progress

/-- Writes the characters with the given codes, which follow each other upwards;
`next` is the smallest code that can still come. -/
def writeCodes (label : List Char) (basics : Nat) :
    Nat → List Nat → Progress → List Char
  | _, [], progress => progress.output
  | next, code :: rest, progress =>
      let moved := { progress with
        distance := progress.distance + (code - next) * (progress.written + 1) }
      let visited := label.foldl (visit basics code) moved
      writeCodes label basics (code + 1) rest
        { visited with distance := visited.distance + 1 }

/-- A label in Punycode. -/
def encode (label : List Char) : List Char :=
  let basics := label.filter fun character => character.toNat < 128
  let codes := (label.map Char.toNat).filter fun code => 128 ≤ code
  let sorted := (codes.mergeSort fun left right => left ≤ right).eraseDups
  basics ++ (if basics.isEmpty then [] else ['-']) ++
    writeCodes label basics.length 128 sorted ⟨[], 0, 72, basics.length⟩

/-! ## Reading -/

/-- A number, if it fits in 32 bits. -/
def word? (value : Nat) : Option Nat := if value ≤ 0xFFFFFFFF then some value else none

/-- What was read so far: the label, the position behind the last character that
was put into it, the code of that character, and the bias. Of the number that is
being read, `reached` is the sum of that position and of the digits so far, and the
next digit counts `weight` times its value and has the place `place`. -/
structure Reading where
  label : List Char
  position : Nat
  code : Nat
  bias : Nat
  reached : Nat
  weight : Nat
  place : Nat

namespace Reading

def start (basics : List Char) : Reading where
  label := basics
  position := 0
  code := 128
  bias := 72
  reached := 0
  weight := 1
  place := 36

/-- Puts a character into the label. What was reached counts all positions of the
label once for each code that is passed. -/
def put? (reading : Reading) (reached : Nat) : Option Reading :=
  let positions := reading.label.length + 1
  let code := reading.code + reached / positions
  let position := reached % positions
  if code.isValidChar then
    some
      { label := reading.label.insertIdx position (Char.ofNat code)
        position := position + 1
        code := code
        bias := adapt (reading.position == 0) (reached - reading.position) positions
        reached := position + 1
        weight := 1
        place := 36 }
  else none

/-- Goes past a digit. One below its threshold ends the number. -/
def take? (reading : Reading) (character : Char) : Option Reading := do
  let value ← digitValue? character
  let reached ← word? (reading.reached + value * reading.weight)
  let least := threshold reading.bias reading.place
  if value < least then reading.put? reached
  else
    let weight ← word? (reading.weight * (36 - least))
    some { reading with reached := reached, weight := weight, place := reading.place + 36 }

end Reading

/-- The ASCII characters of a label before the last hyphen, and the digits behind it.
A hyphen with nothing in front of it separates nothing. -/
def separated (text : List Char) : List Char × List Char :=
  match text.reverse.span (· != '-') with
  | (digits, _ :: basic :: basics) => ((basic :: basics).reverse, digits.reverse)
  | _ => ([], text)

/-- The label of a text in Punycode. -/
def decode? (text : List Char) : Option (List Char) := do
  let (basics, digits) := separated text
  let reading ← digits.foldlM Reading.take? (Reading.start basics)
  if reading.place = 36 then some reading.label else none

end NodeAdmin.Domain.Punycode
