import NodeAdmin.Text.CaseTables
import NodeAdmin.Text.CodeTable

/-!
# Upper and lower case

The full case mappings of Unicode: a character may become several, and a
capital sigma that ends a word becomes a final sigma.
-/

namespace NodeAdmin.Text

def CaseRun.covers (run : CaseRun) (code : Nat) : Bool :=
  run.first ≤ code && code ≤ run.last && (code - run.first) % run.stride == 0

/-- The mapping of a character by expansions first and runs second; a character
without a mapping stays. -/
def mapCase (expansions : List (Nat × List Nat)) (runs : List CaseRun)
    (character : Char) : List Char :=
  let code := character.toNat
  match expansions.find? (·.1 == code) with
  | some expansion => expansion.2.map Char.ofNat
  | none =>
      match runs.find? (·.covers code) with
      | some run => [Char.ofNat (code + run.shift).toNat]
      | none => [character]

def lowerCharacter (character : Char) : List Char :=
  mapCase lowerExpansions lowerRuns character

def upperCharacter (character : Char) : List Char :=
  mapCase upperExpansions upperRuns character

def isCased : Char → Bool := inRanges casedRanges

def isCaseIgnorable : Char → Bool := inRanges caseIgnorableRanges

/-- Whether the nearest character that counts has a case. -/
def meetsCased (text : List Char) : Bool :=
  match text.dropWhile isCaseIgnorable with
  | [] => false
  | character :: _ => isCased character

/-- Whether a capital sigma between the two texts ends a word; the text before
it is given backwards. -/
def endsWord (before after : List Char) : Bool :=
  meetsCased before && !meetsCased after

/-- Lower case of a text whose preceding characters are known, backwards. -/
def lowerFrom (before : List Char) : List Char → List Char
  | [] => []
  | character :: rest =>
      let lowered :=
        if character = 'Σ' then
          if endsWord before rest then ['ς'] else ['σ']
        else lowerCharacter character
      lowered ++ lowerFrom (character :: before) rest

/-- The lower case of a text. -/
def toLower (text : String) : String := String.ofList (lowerFrom [] text.toList)

/-- The upper case of a text. -/
def toUpper (text : String) : String :=
  String.ofList (text.toList.flatMap upperCharacter)

end NodeAdmin.Text
