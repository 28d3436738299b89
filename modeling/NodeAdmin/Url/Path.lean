import NodeAdmin.Url.Percent
import NodeAdmin.Text.Pieces

/-!
# Paths

A path is a list of segments of which the last one is still open: a slash after
it closes it. One point stands for nothing, and two points take back the segment
before them, unless it looks like the name of a drive.
-/

namespace NodeAdmin.Url

def isSinglePoint (segment : String) : Bool :=
  [".", "%2e", "%2E"].contains segment

def isDoublePoint (segment : String) : Bool :=
  ["..", "%2e%2e", "%2e%2E", "%2E%2e", "%2E%2E", "%2e.", "%2E.", ".%2e", ".%2E"].contains
    segment

/-- A letter with a colon or a bar, the name of a drive. -/
def isDrive (segment : String) : Bool :=
  match segment.toList with
  | [letter, mark] => letter.isAlpha && (mark == ':' || mark == '|')
  | _ => false

/-- Takes back the last closed segment. -/
def takeBack (closed : List String) : List String :=
  match closed.getLast? with
  | some last => if isDrive last then closed else closed.dropLast
  | none => []

/-- The closed segments after one more segment is closed. -/
def closeSegment (closed : List String) (segment : String) : List String :=
  if isDoublePoint segment then takeBack closed
  else if isSinglePoint segment then closed
  else closed ++ [segment]

/-- The path whose last segment is `segment`. -/
def endSegment (closed : List String) (segment : String) : List String :=
  if isDoublePoint segment then takeBack closed ++ [""]
  else if isSinglePoint segment then closed ++ [""]
  else closed ++ [segment]

/-- The path of segments in the order of the text. -/
def resolve (closed : List String) : List String → List String
  | [] => closed ++ [""]
  | [segment] => endSegment closed segment
  | segment :: rest => resolve (closeSegment closed segment) rest

/-- The pieces of a path between slashes of either kind. -/
def pathPieces (text : List Char) : List (List Char) :=
  Text.pieces '/' (text.map fun character => if character = '\\' then '/' else character)

/-- The path of a text, of which the first slash opens the path. -/
def pathOfText (text : List Char) : List String :=
  let encode (piece : List Char) : String := String.ofList (percentEncode pathMarks piece)
  match (pathPieces text).map encode with
  | "" :: segment :: rest => resolve [] (segment :: rest)
  | segments => resolve [] segments

/-- Whether a character does not count wherever it stands in an address. -/
def isDropped (character : Char) : Bool :=
  character == '\t' || character == '\n' || character == '\r'

/-- A piece of data as one more segment. Slashes in it are data, and so are
percent signs. The empty segment of a path without others gives way to it. -/
def addSegment (path : List String) (piece : List Char) : List String :=
  let kept := piece.filter fun character => !isDropped character
  let segment := String.ofList (percentEncode segmentMarks kept)
  if path = [""] then endSegment [] segment else endSegment path segment

/-- Pieces of data as further segments; single and double points are left out. -/
def addSegments (path : List String) (pieces : List (List Char)) : List String :=
  (pieces.filter fun piece => piece != ['.'] && piece != ['.', '.']).foldl addSegment path

end NodeAdmin.Url
