import NodeAdmin.Domain.JoiningTables
import NodeAdmin.Text.Composition

/-!
# Joiners

Two characters without width say whether their neighbours join. A label holds
them where they make a difference to its look: behind a virama, and the one that
keeps letters apart also between letters that would join.
-/

namespace NodeAdmin.Domain

def isMark : Char → Bool := Text.inRanges markRanges

def joining? : Char → Option Joining := Text.classOf? joiningRanges

/-- The combining class of viramas. -/
def viramaClass : Nat := 9

def isNonJoiner (character : Char) : Bool := character.toNat == 0x200C

def isJoiner (character : Char) : Bool := character.toNat == 0x200D

/-- Whether the nearest character that is not transparent joins on one of the
sides. -/
def meets (sides : List Joining) (text : List Char) : Bool :=
  match (text.map joining?).dropWhile (· == some .transparent) with
  | some side :: _ => sides.contains side
  | _ => false

/-- Whether a joiner can stand between two texts; the text before it is given
backwards. -/
def joinerStands (before : List Char) (joiner : Char) (after : List Char) : Bool :=
  match before with
  | [] => false
  | last :: _ =>
      Text.combiningClass last == viramaClass ||
        (isNonJoiner joiner && meets [.left, .dual] before && meets [.right, .dual] after)

/-- Whether every joiner can stand where it is, behind the text `before`, which is
given backwards. -/
def joinersStand (before : List Char) : List Char → Bool
  | [] => true
  | character :: rest =>
      (if isNonJoiner character || isJoiner character then
        joinerStands before character rest
      else true) && joinersStand (character :: before) rest

end NodeAdmin.Domain
