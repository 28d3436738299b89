import NodeAdmin.Domain.Joining
import NodeAdmin.Domain.Mapping
import NodeAdmin.Domain.Punycode

/-!
# Labels

A label with characters beyond ASCII is written in Punycode behind a mark of its
own. A label that is written so already has to be one that writing could yield.
-/

namespace NodeAdmin.Domain

/-- A label as it is written, in ASCII, and as it is shown. -/
structure Label where
  written : List Char
  shown : List Char
  deriving DecidableEq, Repr

namespace Label

/-- What stands in front of Punycode. -/
def encodedStart : List Char := "xn--".toList

/-- The longest label beyond ASCII that is written in Punycode. -/
def longestShown : Nat := 1000

/-- The longest Punycode that is read. -/
def longestEncoded : Nat := 2000

/-- Whether characters beyond ASCII make up a label. -/
def isShown (label : List Char) : Bool :=
  !(label.head?.any isMark) && joinersStand [] label && label.length ≤ longestShown

/-- The label of composed characters that is not written in Punycode. -/
def ofShown? (label : List Char) : Option Label :=
  if isAscii label then some ⟨label, label⟩
  else if isShown label then some ⟨encodedStart ++ Punycode.encode label, label⟩
  else none

/-- The label of a text in Punycode, which does not end with a hyphen. -/
def ofEncoded? (text : List Char) : Option Label :=
  if !isAscii text || text.getLast?.all (· == '-') || longestEncoded < text.length then none
  else do
    let shown ← Punycode.decode? text
    if shown.all isKept && !shown.any isForbidden && Text.composed shown == shown &&
        isShown shown then
      some ⟨encodedStart ++ text, shown⟩
    else none

/-- The label of composed characters. -/
def ofComposed? (label : List Char) : Option Label :=
  match Text.afterStart? encodedStart label with
  | some text => ofEncoded? text
  | none => ofShown? label

end Label

end NodeAdmin.Domain
