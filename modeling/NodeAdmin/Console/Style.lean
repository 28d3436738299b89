/-!
# Styled text

Text for terminals. A style wraps a text into an escape sequence and a reset;
without colour the text stays as it is. A reset that the text already holds is
followed by the style again, and padding goes inside the escapes.
-/

namespace NodeAdmin.Console

inductive Style where
  | bold
  | dimmed
  | red
  | boldRed
  | green
  | yellow
  | cyan
  deriving DecidableEq, Repr

/-- The parameters of the escape sequence of a style. -/
def Style.parameters : Style → String
  | bold => "1"
  | dimmed => "2"
  | red => "31"
  | boldRed => "1;31"
  | green => "32"
  | yellow => "33"
  | cyan => "36"

def escapeCharacter : Char := '\x1b'

/-- The sequence that starts a style. -/
def Style.start (style : Style) : List Char :=
  escapeCharacter :: '[' :: (style.parameters.toList ++ ['m'])

/-- The sequence that ends every style. -/
def reset : List Char := [escapeCharacter, '[', '0', 'm']

/-- Starts a style again after every reset in a text. -/
def restart (start : List Char) : List Char → List Char
  | [] => []
  | '\x1b' :: '[' :: '0' :: 'm' :: rest => reset ++ start ++ restart start rest
  | character :: rest => character :: restart start rest

/-- A text filled up with blanks behind it. -/
def padRight (width : Nat) (text : List Char) : List Char :=
  text ++ List.replicate (width - text.length) ' '

/-- A text filled up with blanks in front of it. -/
def padLeft (width : Nat) (text : List Char) : List Char :=
  List.replicate (width - text.length) ' ' ++ text

/-- A text in a style, padded to a width; without a style it is only padded. -/
def styledTo (width : Nat) (colour : Bool) (style : Option Style) (text : String) :
    String :=
  match style with
  | some style =>
      if colour then
        String.ofList
          (style.start ++ padRight width (restart style.start text.toList) ++ reset)
      else String.ofList (padRight width text.toList)
  | none => String.ofList (padRight width text.toList)

/-- A text in a style. -/
def styled (colour : Bool) (style : Style) (text : String) : String :=
  styledTo 0 colour (some style) text

end NodeAdmin.Console
