import NodeAdmin.Domain.Direction
import NodeAdmin.Domain.Label

/-!
# Reading domains

A domain is read in the form that its characters stand for, cut into labels at
the full stops, and written in ASCII.
-/

namespace NodeAdmin.Domain

/-- The labels of a text. -/
def labels? (text : List Char) : Option (List Label) := do
  let characters ← mapped? text
  if characters.any isForbidden then none
  else
    let labels ← (Text.pieces '.' characters).mapM Label.ofComposed?
    if showTogether (labels.map Label.shown) then some labels else none

def joinLabels : List (List Char) → List Char
  | [] => []
  | [label] => label
  | label :: rest => label ++ '.' :: joinLabels rest

/-- The domain that a text stands for, in ASCII. -/
def written? (text : List Char) : Option (List Char) :=
  (labels? text).map fun labels => joinLabels (labels.map Label.written)

end NodeAdmin.Domain
