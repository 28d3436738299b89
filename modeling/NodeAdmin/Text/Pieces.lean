import NodeAdmin.Text.Blank

/-!
# Cutting and joining texts

Texts are cut at separators, freed of a known start or of slashes at the end,
and joined again.
-/

namespace NodeAdmin.Text

/-- A text without the slashes at its end. -/
def dropTrailingSlashes (text : String) : String :=
  String.ofList (dropEnd (· == '/') text.toList)

/-- What follows `start` in a text that starts with it. -/
def afterStart? : List Char → List Char → Option (List Char)
  | [], text => some text
  | _ :: _, [] => none
  | expected :: start, character :: text =>
      if expected = character then afterStart? start text else none

/-- The pieces of a text between the occurrences of a separator; there is
always at least one piece. -/
def pieces (separator : Char) : List Char → List (List Char)
  | [] => [[]]
  | character :: rest =>
      if character = separator then [] :: pieces separator rest
      else match pieces separator rest with
        | [] => [[character]]
        | piece :: others => (character :: piece) :: others

/-- Texts joined with a separator between each two. -/
def join (separator : String) : List String → String
  | [] => ""
  | [text] => text
  | text :: rest => text ++ separator ++ join separator rest

end NodeAdmin.Text
