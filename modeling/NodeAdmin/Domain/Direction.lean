import NodeAdmin.Domain.DirectionTables

/-!
# Direction of labels

Where a domain holds letters that are written from right to left, or their digits,
each of its labels has to keep to one direction, so that the labels are not mixed
up when they are shown.
-/

namespace NodeAdmin.Domain

namespace Direction

/-- The direction of a character. -/
def ofCharacter (character : Char) : Direction :=
  (Text.classOf? directionRanges character).getD .leftLetter

/-- Directions that a label of either direction can hold. -/
def common : List Direction :=
  [.europeanNumber, .europeanSeparator, .commonSeparator, .europeanTerminator, .neutral,
    .boundary, .mark]

def leftward : List Direction := [.rightLetter, .arabicLetter, .arabicNumber]

/-- Whether the last of some directions, past the marks, is one of `ends`. -/
def endsWith (ends directions : List Direction) : Bool :=
  match directions.reverse.dropWhile (· == .mark) with
  | [] => true
  | last :: _ => ends.contains last

/-- Whether directions can follow a letter that is written from left to right. -/
def followLeft (directions : List Direction) : Bool :=
  directions.all (.leftLetter :: common).contains &&
    endsWith [.leftLetter, .europeanNumber] directions

/-- Whether directions can follow a letter that is written from right to left: not
with digits of both kinds. -/
def followRight (directions : List Direction) : Bool :=
  directions.all (leftward ++ common).contains &&
    endsWith (.europeanNumber :: leftward) directions &&
    !(directions.contains .europeanNumber && directions.contains .arabicNumber)

end Direction

/-- Whether a label keeps to the direction of its first character. -/
def keepsDirection (label : List Char) : Bool :=
  match label.map Direction.ofCharacter with
  | [] => true
  | .leftLetter :: rest => Direction.followLeft rest
  | .rightLetter :: rest | .arabicLetter :: rest => Direction.followRight rest
  | _ => false

/-- Whether a character belongs to a text that is written from right to left. There
is none before the Hebrew letters. -/
def isLeftward (character : Char) : Bool :=
  0x590 ≤ character.toNat &&
    Direction.leftward.contains (Direction.ofCharacter character)

/-- Whether the labels of a domain can be shown together. -/
def showTogether (labels : List (List Char)) : Bool :=
  if labels.flatten.any isLeftward then labels.all keepsDirection else true

end NodeAdmin.Domain
