import NodeAdmin.Text.Hex
import NodeAdmin.Text.Pieces

/-!
# Tables of character codes

A table is written as lines of entries with a blank between each two, all codes in
hexadecimal. The entry `B5` is one code and `41-5A` a range. A mapping adds what
the code stands for, as in `B4>20+301`; the codes of a range stand for codes at the
same distances, and `100-12E/2>101` has every second code of its range.
-/

namespace NodeAdmin.Text

def inRanges (ranges : List (Nat × Nat)) (character : Char) : Bool :=
  ranges.any fun range =>
    range.1 ≤ character.toNat && character.toNat ≤ range.2

/-- The class of the ranges that a character is in. -/
def classOf? {Class : Type} (classes : List (Class × List (Nat × Nat)))
    (character : Char) : Option Class :=
  (classes.find? fun entry => inRanges entry.2 character).map (·.1)

/-- The code `first + n * stride`, up to `last`, stands for `target + n * stride`
with the codes `further` behind it. -/
structure CodeMapping where
  first : Nat
  last : Nat
  stride : Nat
  target : Nat
  further : List Nat
  deriving DecidableEq, Repr

namespace CodeMapping

def covers (mapping : CodeMapping) (code : Nat) : Bool :=
  mapping.first ≤ code && code ≤ mapping.last &&
    (code - mapping.first) % mapping.stride == 0

/-- What a covered code stands for. -/
def image (mapping : CodeMapping) (code : Nat) : List Nat :=
  (mapping.target + (code - mapping.first)) :: mapping.further

end CodeMapping

/-- What the first mapping for a character makes of it. -/
def mapped? (mappings : List CodeMapping) (character : Char) : Option (List Char) :=
  let code := character.toNat
  (mappings.find? (·.covers code)).map fun mapping => (mapping.image code).map Char.ofNat

/-! ## Reading tables -/

/-- The range of an entry. -/
def range? (entry : List Char) : Option (Nat × Nat) := do
  match ← (pieces '-' entry).mapM hexNumber? with
  | [code] => some (code, code)
  | [first, last] => some (first, last)
  | _ => none

/-- The codes that a mapping starts from: a range and a stride. -/
def source? (entry : List Char) : Option ((Nat × Nat) × Nat) := do
  match pieces '/' entry with
  | [range] => some (← range? range, 1)
  | [range, stride] => some (← range? range, ← hexNumber? stride)
  | _ => none

/-- The mapping of an entry. -/
def mapping? (entry : List Char) : Option CodeMapping := do
  match pieces '>' entry with
  | [source, image] =>
      let (range, stride) ← source? source
      match ← (pieces '+' image).mapM hexNumber? with
      | target :: further => some ⟨range.1, range.2, stride, target, further⟩
      | [] => none
  | _ => none

/-- What the entries of a table hold. -/
def entries {α : Type} (read? : List Char → Option α) (lines : List String) : List α :=
  lines.flatMap fun line => (pieces ' ' line.toList).filterMap read?

def ranges : List String → List (Nat × Nat) := entries range?

def mappings : List String → List CodeMapping := entries mapping?

example : ranges ["41-5A B5"] = [(0x41, 0x5A), (0xB5, 0xB5)] := by decide

example : mappings ["B4>20+301", "100-12E/2>101"] =
    [⟨0xB4, 0xB4, 1, 0x20, [0x301]⟩, ⟨0x100, 0x12E, 2, 0x101, []⟩] := by decide

end NodeAdmin.Text
