import SpatialGrammar.Text.Property.Binary

/-!
# Texts in quotes

The written form of a text that shows where it begins and ends and which characters it has: quotes,
backslashes and line breaks are written with a backslash, and characters that cannot be seen or
that would join the one before them as their codes.
-/

namespace SpatialGrammar.Text

/-- The characters that are written as their codes: spaces other than the usual one, controls,
marks that extend the character before them, and what is not assigned. -/
def unwritten : CharSet :=
  (Repertoire.sum [Property.graphemeExtend, Category.spaceSeparator.repertoire,
    Category.lineSeparator.repertoire, Category.paragraphSeparator.repertoire,
    Category.control.repertoire, Category.format.repertoire, Category.privateUse.repertoire,
    Category.unassigned.repertoire]).members

/-- The written form of a character within double quotes. -/
def quotedChar (c : Char) : List Char :=
  if c == '"' || c == '\\' then ['\\', c]
  else if c == '\n' then ['\\', 'n']
  else if c == '\r' then ['\\', 'r']
  else if c == '\t' then ['\\', 't']
  else if c.toNat == 0 then ['\\', '0']
  else if c != ' ' && unwritten.contains c then
    ['\\', 'u', '\x7b'] ++ Nat.toDigits 16 c.toNat ++ ['\x7d']
  else [c]

/-- The written form of a text, in double quotes. -/
def quoted (s : String) : String :=
  String.ofList ('"' :: s.toList.flatMap quotedChar ++ ['"'])

end SpatialGrammar.Text
