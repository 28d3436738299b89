import NodeAdmin.Url.Host
import NodeAdmin.Url.Path

/-!
# Reading addresses

Tabs and line ends anywhere in an address and blanks around it do not count. Any
number of slashes of either kind may stand in front of the host, and what stands
before the last at sign is a name and a password.
-/

namespace NodeAdmin.Url

/-- Control characters and blanks, which do not count around an address. -/
def isOuter (character : Char) : Bool := character.toNat ≤ 32

/-- The characters of an address that count. -/
def relevant (text : List Char) : List Char :=
  (Text.dropEnd isOuter (text.dropWhile isOuter)).filter fun character =>
    !isDropped character

def isSlash (character : Char) : Bool := character == '/' || character == '\\'

/-- Whether a character ends the part of an address that names the host. -/
def endsAuthority (character : Char) : Bool :=
  isSlash character || character == '?' || character == '#'

/-- The scheme of a text and what follows its colon. -/
def scheme? (text : List Char) : Except Problem (Scheme × List Char) :=
  let name := (text.takeWhile (· != ':')).map Char.toLower
  match text.dropWhile (· != ':') with
  | [] => .error .relative
  | _ :: rest =>
      if name = "http".toList then .ok (.http, rest)
      else if name = "https".toList then .ok (.https, rest)
      else .error .relative

/-- What stands before and after the last occurrence of a mark. -/
def cutAtLast (mark : Char) (text : List Char) : Option (List Char × List Char) :=
  if text.contains mark then
    let after := (text.reverse.takeWhile (· != mark)).reverse
    some (text.take (text.length - after.length - 1), after)
  else none

/-- The name and the password of a text. Parts without characters do not count. -/
def credentialsOf (text : List Char) : Option Credentials :=
  let user := text.takeWhile (· != ':')
  let password := (text.dropWhile (· != ':')).drop 1
  let encode (part : List Char) : String := String.ofList (percentEncode userMarks part)
  if user.isEmpty ∧ password.isEmpty then none
  else
    some ⟨encode user, if password.isEmpty then none else some (encode password)⟩

/-- The text of a host and what follows it: a colon ends a host unless it stands
in brackets. -/
def cutAfterHost (inBrackets : Bool) : List Char → List Char × List Char
  | [] => ([], [])
  | character :: rest =>
      if character = ':' ∧ ¬ inBrackets then ([], character :: rest)
      else
        let within :=
          if character = '[' then true else if character = ']' then false else inBrackets
        let cut := cutAfterHost within rest
        (character :: cut.1, cut.2)

/-- The port behind a host; the usual one counts as none. -/
def port? (scheme : Scheme) : List Char → Except Problem (Option Nat)
  | ':' :: digits =>
      if ¬ digits.all Char.isDigit ∨ 65535 < digitsValue digits then .error .invalidPort
      else if digits.isEmpty ∨ digitsValue digits = scheme.usualPort then .ok none
      else .ok (some (digitsValue digits))
  | _ => .ok none

/-- The name, the password, the host and the port. An at sign needs a host. -/
def authority? (scheme : Scheme) (text : List Char) :
    Except Problem (Option Credentials × Host × Option Nat) := do
  let (front, rest) := (cutAtLast '@' text).getD ([], text)
  let (name, behind) := cutAfterHost false rest
  let host ← host? name
  let port ← port? scheme behind
  .ok (credentialsOf front, host, port)

/-- What stands before a mark, and what stands behind it if it is there. -/
def cutAt (mark : Char) (text : List Char) : List Char × Option (List Char) :=
  match text.dropWhile (· != mark) with
  | [] => (text, none)
  | _ :: rest => (text.takeWhile (· != mark), some rest)

/-- The address of a text. -/
def parse (text : String) : Except Problem Url := do
  let (scheme, rest) ← scheme? (relevant text.toList)
  let rest := rest.dropWhile isSlash
  let (credentials, host, port) ← authority? scheme (rest.takeWhile (!endsAuthority ·))
  let (beforeFragment, fragment) := cutAt '#' (rest.dropWhile (!endsAuthority ·))
  let (beforeQuery, query) := cutAt '?' beforeFragment
  let encode (marks : String) (part : List Char) : String :=
    String.ofList (percentEncode marks part)
  .ok
    { scheme := scheme
      credentials := credentials
      host := host
      port := port
      path := pathOfText beforeQuery
      query := query.map (encode queryMarks)
      fragment := fragment.map (encode fragmentMarks) }

/-- The address with form values behind its query. -/
def addQuery (values : List (String × String)) (url : Url) : Url :=
  let value (pair : String × String) : String :=
    String.ofList (formEncode pair.1.toList ++ '=' :: formEncode pair.2.toList)
  let parts := (url.query.filter (!·.isEmpty)).toList ++ values.map value
  { url with query := if parts.isEmpty then none else some (Text.join "&" parts) }

/-- The address with pieces of data as further segments of its path. -/
def addPath (pieces : List (List Char)) (url : Url) : Url :=
  { url with path := addSegments url.path pieces }

end NodeAdmin.Url
