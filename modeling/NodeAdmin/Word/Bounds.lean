/-!
# Words

The bounds of whole numbers that are kept in words of 32 and 64 bits.
-/

namespace NodeAdmin.Word

/-- The first whole number past the words of 32 bits. -/
def bound32 : Int := 4294967296

/-- The first whole number past the words of 64 bits. -/
def bound64 : Int := 18446744073709551616

/-- The first whole number past the signed words of 64 bits. -/
def signedBound64 : Int := 9223372036854775808

/-- Whether a whole number is a signed word of 64 bits. -/
def isSigned64 (value : Int) : Bool := -signedBound64 ≤ value && value < signedBound64

/-- Whether a whole number is a word of 64 bits. -/
def isWord64 (value : Int) : Bool := 0 ≤ value && value < bound64

/-- Whether a whole number is a word of 32 bits. -/
def isWord32 (value : Int) : Bool := 0 ≤ value && value < bound32

end NodeAdmin.Word
