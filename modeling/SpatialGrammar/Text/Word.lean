import SpatialGrammar.Text.Property.Binary

/-!
# Word characters of all scripts

The characters of which words consist: letters and what else is alphabetic, marks, decimal digits,
connector punctuation and the two join controls.
-/

namespace SpatialGrammar.Text

/-- The word characters. -/
def wordChars : CharSet := Property.word.members

/-- Whether a character is a word character. -/
def isWordChar (c : Char) : Bool := wordChars.contains c

/-- The word characters of ASCII. -/
def asciiWordChars : CharSet := CharSet.ofText "30-39 41-5A 5F 61-7A"

end SpatialGrammar.Text
