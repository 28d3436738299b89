import NodeAdmin.Text.Hex
import NodeAdmin.Text.Utf8

/-!
# Percent-encoding

Each part of an address has its own set of characters that it holds only as
encoded bytes. Control characters and everything beyond ASCII are in every set.
-/

namespace NodeAdmin.Url

/-- A byte in percent-encoding. -/
def percentByte (byte : UInt8) : List Char := '%' :: Text.upperHex 2 byte.toNat

def percentCharacter (character : Char) : List Char :=
  (Text.encodeCharacter character).flatMap percentByte

/-- The set of control characters, characters beyond ASCII and some marks. -/
def inSet (marks : String) (character : Char) : Bool :=
  character.toNat < 32 || 126 < character.toNat || marks.toList.contains character

def fragmentMarks : String := " \"<>`"

def queryMarks : String := " \"#<>'"

def pathMarks : String := fragmentMarks ++ "#?\x7b\x7d"

/-- A segment that is added to a path keeps its slashes and percent signs as
data. -/
def segmentMarks : String := pathMarks ++ "/\\%"

def userMarks : String := pathMarks ++ "/:;=@[\\]^|"

/-- A text with the characters of a set encoded. -/
def percentEncode (marks : String) (text : List Char) : List Char :=
  text.flatMap fun character =>
    if inSet marks character then percentCharacter character else [character]

/-- A form value: letters, digits and four marks stand for themselves, and a plus
sign for a blank. -/
def formEncode (text : List Char) : List Char :=
  text.flatMap fun character =>
    if character.isAlphanum || "*-._".toList.contains character then [character]
    else if character = ' ' then ['+']
    else percentCharacter character

/-- The bytes of a text. A percent sign without two hexadecimal digits behind it
stands for itself. -/
def percentDecode : List Char → List UInt8
  | [] => []
  | '%' :: high :: low :: rest =>
      match Text.hexNumber? [high, low] with
      | some value => UInt8.ofNat value :: percentDecode rest
      | none => UInt8.ofNat 37 :: percentDecode (high :: low :: rest)
  | character :: rest => Text.encodeCharacter character ++ percentDecode rest

end NodeAdmin.Url
