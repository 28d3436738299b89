import NodeAdmin.Double.Reading
import NodeAdmin.Text.Hex
import NodeAdmin.Text.Pieces

/-!
# Numeric addresses

IPv4 addresses are read generously: their numbers may be octal or hexadecimal,
and the last one fills all bytes that are left. IPv6 addresses are read strictly
and written with their longest run of zeros left out.
-/

namespace NodeAdmin.Url

/-! ## IPv4 -/

/-- The value of digits to a base, if they are such digits. -/
def baseNumber? (base : Nat) (digits : List Char) : Option Nat :=
  digits.foldlM (fun value digit =>
    match Text.hexValue? digit with
    | some amount => if amount < base then some (value * base + amount) else none
    | none => none) 0

/-- One number of an IPv4 address. A mark without digits is zero. -/
def ipv4Number? : List Char → Option Nat
  | [] => none
  | ['0'] => some 0
  | '0' :: mark :: rest =>
      if mark = 'x' ∨ mark = 'X' then baseNumber? 16 rest
      else baseNumber? 8 (mark :: rest)
  | digits => baseNumber? 10 digits

/-- The labels of a host; one empty label at the end does not count. -/
def hostLabels (host : List Char) : List (List Char) :=
  let labels := Text.pieces '.' host
  if 1 < labels.length ∧ labels.getLast? = some [] then labels.dropLast else labels

/-- Whether a host must be an IPv4 address, because its last label is a number. -/
def endsInNumber (host : List Char) : Bool :=
  match (hostLabels host).getLast? with
  | none => false
  | some label =>
      (!label.isEmpty && label.all Char.isDigit) || (ipv4Number? label).isSome

/-- The address of up to four numbers. -/
def ipv4Of? (numbers : List Nat) : Option Nat := do
  let last ← numbers.getLast?
  let leading := numbers.dropLast
  let room := Nat.pow 256 (4 - leading.length)
  if 3 < leading.length ∨ leading.any (255 < ·) ∨ room ≤ last then none
  else some (leading.foldl (fun value number => value * 256 + number) 0 * room + last)

/-- The address of a host. -/
def ipv4? (host : List Char) : Option Nat := do
  ipv4Of? (← (hostLabels host).mapM ipv4Number?)

/-- An IPv4 address as four decimal numbers. -/
def ipv4Text (address : Nat) : String :=
  Text.join "." ([16777216, 65536, 256, 1].map fun unit =>
    String.ofList (Nat.toDigits 10 (address / unit % 256)))

/-! ## IPv6 -/

/-- One piece of an IPv6 address. -/
def ipv6Piece? (digits : List Char) : Option Nat :=
  if digits.isEmpty ∨ 4 < digits.length then none else Text.hexNumber? digits

/-- A decimal number of a byte without needless zeros. -/
def byteNumber? (digits : List Char) : Option Nat :=
  match digits with
  | [] => none
  | '0' :: _ :: _ => none
  | _ =>
      if digits.all Char.isDigit ∧ digitsValue digits ≤ 255 then some (digitsValue digits)
      else none

/-- The two pieces of an IPv4 address at the end of an IPv6 address. -/
def embedded? (text : List Char) : Option (List Nat) := do
  match ← (Text.pieces '.' text).mapM byteNumber? with
  | [first, second, third, fourth] =>
      some [first * 256 + second, third * 256 + fourth]
  | _ => none

/-- The pieces between colons; the last of them may be an IPv4 address. -/
def ipv6Pieces? : List (List Char) → Option (List Nat)
  | [] => some []
  | [last] =>
      match ipv6Piece? last with
      | some piece => some [piece]
      | none => embedded? last
  | group :: rest => do
      let piece ← ipv6Piece? group
      let pieces ← ipv6Pieces? rest
      some (piece :: pieces)

/-- What stands before and after the first pair of colons. -/
def cutAtGap : List Char → Option (List Char × List Char)
  | ':' :: ':' :: rest => some ([], rest)
  | character :: rest => (cutAtGap rest).map fun cut => (character :: cut.1, cut.2)
  | [] => none

/-- The groups of a text; an empty text has none. -/
def colonGroups (text : List Char) : List (List Char) :=
  if text.isEmpty then [] else Text.pieces ':' text

/-- The eight pieces of an address. A pair of colons stands for at least one
piece that is zero. -/
def ipv6? (text : List Char) : Option (List Nat) :=
  match cutAtGap text with
  | none => do
      let pieces ← ipv6Pieces? (Text.pieces ':' text)
      if pieces.length = 8 then some pieces else none
  | some (front, back) => do
      let front ← (colonGroups front).mapM ipv6Piece?
      let back ← ipv6Pieces? (colonGroups back)
      let count := front.length + back.length
      if count < 8 then some (front ++ List.replicate (8 - count) 0 ++ back) else none

/-- Where the first of the longest runs of zeros starts, and its length. -/
def longestZeros (position : Nat) : List Nat → Nat × Nat
  | [] => (position, 0)
  | piece :: rest =>
      let here := ((piece :: rest).takeWhile (· == 0)).length
      let later := longestZeros (position + 1) rest
      if later.2 ≤ here then (position, here) else later

def piecesText (pieces : List Nat) : String :=
  Text.join ":" (pieces.map fun piece => String.ofList (Nat.toDigits 16 piece))

/-- An IPv6 address; a run of at least two zeros is left out. -/
def ipv6Text (pieces : List Nat) : String :=
  let run := longestZeros 0 pieces
  if run.2 < 2 then piecesText pieces
  else piecesText (pieces.take run.1) ++ "::" ++ piecesText (pieces.drop (run.1 + run.2))

end NodeAdmin.Url
