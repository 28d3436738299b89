import NodeAdmin.Domain.MappingTables
import NodeAdmin.Text.Composition

/-!
# Characters of domains

A domain is read in a form in which capitals are small letters, variants of a
character are that character, and characters that show nothing are left out. Some
characters cannot stand in a domain at all.
-/

namespace NodeAdmin.Domain

def isAscii (text : List Char) : Bool := text.all fun character => character.toNat < 128

/-- ASCII characters that no domain holds, besides the control characters. -/
def forbiddenMarks : String := " %#/:<>?@[\\]^|"

/-- Whether an ASCII character cannot stand in a domain. -/
def isForbidden (character : Char) : Bool :=
  character.toNat < 32 || character.toNat = 127 ||
    forbiddenMarks.toList.contains character

/-- The characters that a character of a domain stands for. -/
def characters? (character : Char) : Option (List Char) :=
  if character.toNat < 128 then some [character.toLower]
  else if Text.inRanges ignoredRanges character then some []
  else
    match Text.mapped? replacements character, Text.mapped? expansions character with
    | some characters, _ => some characters
    | none, some characters => some characters
    | none, none => if Text.inRanges keptRanges character then some [character] else none

/-- Whether a character stands for itself. -/
def isKept (character : Char) : Bool := characters? character == some [character]

/-- The characters that a whole text stands for. ASCII is in composed form as it is. -/
def mapped? (text : List Char) : Option (List Char) :=
  if isAscii text then some (text.map Char.toLower)
  else (text.mapM characters?).map fun mapped => Text.composed mapped.flatten

end NodeAdmin.Domain
