import NodeAdmin.Text.CompositionTables

/-!
# Composed characters

A character with marks can be written in several ways that mean the same. In the
composed form the marks behind a character stand in the order of their combining
classes, and each is joined to the character where there is one for both. A Hangul
syllable is composed of two or three letters by arithmetic.

Characters that decompose and are never composed again are left as they are.
-/

namespace NodeAdmin.Text

/-- The combining class of a mark; it is zero for a character that starts anew. -/
def combiningClass (character : Char) : Nat :=
  (classOf? combiningClasses character).getD 0

/-! ## Hangul syllables -/

/-- The distance of a code from the first of a block, if it is in the block. -/
def offset? (first count code : Nat) : Option Nat :=
  if first ≤ code ∧ code < first + count then some (code - first) else none

def leading? : Nat → Option Nat := offset? 0x1100 19

def vowel? : Nat → Option Nat := offset? 0x1161 21

/-- The letters that can close a syllable have numbers from one. -/
def trailing? (code : Nat) : Option Nat := (offset? 0x11A8 27 code).map (· + 1)

/-- Syllables are numbered by their first letter, then their vowel, then the letter
that closes them, with zero for none. -/
def syllable? : Nat → Option Nat := offset? 0xAC00 11172

/-- The letters of a syllable. -/
def syllableLetters (number : Nat) : List Char :=
  let letters := [0x1100 + number / 588, 0x1161 + number % 588 / 28]
  let closing := if number % 28 = 0 then [] else [0x11A7 + number % 28]
  (letters ++ closing).map Char.ofNat

/-- The syllable of two letters, or of a syllable that is open and a letter. -/
def composedSyllable? (first second : Nat) : Option Nat :=
  match leading? first, vowel? second, syllable? first, trailing? second with
  | some leading, some vowel, _, _ => some (0xAC00 + (leading * 21 + vowel) * 28)
  | _, _, some number, some trailing =>
      if number % 28 = 0 then some (0xAC00 + number + trailing) else none
  | _, _, _, _ => none

/-! ## Taking apart -/

/-- The parts of a character, with the first one taken apart up to `depth` times. -/
def partsTo : Nat → Char → List Char
  | 0, character => [character]
  | depth + 1, character =>
      match mapped? compositions character with
      | some (first :: marks) => partsTo depth first ++ marks
      | _ => [character]

/-- The character and the marks that a character is composed of; no character has
more than three marks. -/
def parts (character : Char) : List Char :=
  match syllable? character.toNat with
  | some number => syllableLetters number
  | none => partsTo 3 character

/-! ## Order of marks -/

/-- Marks with a mark put in front of all that have a higher or the same class. -/
def insertMark (mark : Char) : List Char → List Char
  | [] => [mark]
  | other :: rest =>
      if combiningClass other = 0 ∨ combiningClass mark ≤ combiningClass other then
        mark :: other :: rest
      else other :: insertMark mark rest

/-- A text with the marks behind each character in the order of their classes. -/
def orderMarks : List Char → List Char
  | [] => []
  | character :: rest =>
      if combiningClass character = 0 then character :: orderMarks rest
      else insertMark character (orderMarks rest)

/-! ## Putting together -/

/-- The character that two characters compose. -/
def composedPair? (first second : Char) : Option Char :=
  match composedSyllable? first.toNat second.toNat with
  | some code => some (Char.ofNat code)
  | none =>
      (compositions.find? fun mapping =>
        mapping.target == first.toNat && mapping.further == [second.toNat]).map
          fun mapping => Char.ofNat mapping.first

/-- Whether nothing stands between a character and a mark to be joined to it: the
marks that stayed, backwards, have lower classes. -/
def isOpen (stayed : List Char) (character : Char) : Bool :=
  match stayed with
  | [] => true
  | last :: _ => combiningClass last < combiningClass character

/-- A text behind the character `start` and the marks, backwards, that could not be
joined to it. -/
def composeFrom (start : Char) (stayed : List Char) : List Char → List Char
  | [] => start :: stayed.reverse
  | character :: rest =>
      match if isOpen stayed character then composedPair? start character else none with
      | some composed => composeFrom composed stayed rest
      | none =>
          if combiningClass character = 0 then
            start :: stayed.reverse ++ composeFrom character [] rest
          else composeFrom start (character :: stayed) rest

/-- A text of parts put together. Marks in front of the first character stay. -/
def compose : List Char → List Char
  | [] => []
  | character :: rest =>
      if combiningClass character = 0 then composeFrom character [] rest
      else character :: compose rest

/-- The composed form of a text. -/
def composed (text : List Char) : List Char :=
  compose (orderMarks (text.flatMap parts))

end NodeAdmin.Text
