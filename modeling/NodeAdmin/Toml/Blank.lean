/-!
# Blanks, comments and line ends

What may stand between the parts of a TOML document.
-/

namespace NodeAdmin.Toml

/-- The text with every line end written as a line feed. A carriage return that
ends no line is not allowed anywhere. -/
def unifyLineEnds? : List Char → Option (List Char)
  | [] => some []
  | '\r' :: '\n' :: rest => (unifyLineEnds? rest).map ('\n' :: ·)
  | character :: rest =>
      if character = '\r' then none
      else (unifyLineEnds? rest).map (character :: ·)

def isSpace (character : Char) : Bool := character == ' ' || character == '\t'

def skipSpaces (text : List Char) : List Char := text.dropWhile isSpace

/-- The characters of texts and comments: tabs and everything that is not a
control character. -/
def isTextCharacter (character : Char) : Bool :=
  character == '\t' || (32 ≤ character.toNat && character.toNat != 127)

/-- The text after a comment at its front. -/
def skipComment : List Char → List Char
  | '#' :: rest => rest.dropWhile isTextCharacter
  | text => text

/-- The text after a line on which nothing more but a comment stands. The end of
the text ends a line as well. -/
def finishLine? (text : List Char) : Option (List Char) :=
  match skipComment (skipSpaces text) with
  | [] => some []
  | '\n' :: rest => some rest
  | _ => none

/-- The text after blanks, comments and line ends; a comment that was begun must
reach the end of its line. -/
def skipGap? (inComment : Bool) : List Char → Option (List Char)
  | [] => if inComment then none else some []
  | character :: rest =>
      if character = '\n' then skipGap? false rest
      else if inComment then
        if isTextCharacter character then skipGap? true rest else none
      else if isSpace character then skipGap? false rest
      else if character = '#' then skipGap? true rest
      else some (character :: rest)

end NodeAdmin.Toml
