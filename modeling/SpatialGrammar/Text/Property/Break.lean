import SpatialGrammar.Text.Property.Binary
import SpatialGrammar.Text.Property.Script

/-!
# Breaks between graphemes, words and sentences

What characters count as where a text is broken into graphemes, into words or into sentences. A
value that no character has is not listed, nor is the value of all remaining characters.
-/

namespace SpatialGrammar.Text.Break

open Category Property

/-- The zero-width joiner. -/
def joiner : Repertoire := .runs "200D"

/-- The syllables that end in a vowel, 28 code points apart. -/
def openSyllables : List Nat := (List.range 399).map fun i => 0xAC00 + 28 * i

/-- What extends a grapheme. -/
def extend : Repertoire := .union graphemeExtend emojiModifier

/-- What is put in front of a grapheme. -/
def prepend : Repertoire :=
  .union prependedConcatenationMark
    (.runs "D4E 111C2-111C3 113D1 1193F 11941 11A3A 11A84-11A89 11D46 11F02")

/-- What stands alone. -/
def controls : Repertoire :=
  .diff
    (.sum [anyOf [lineSeparator, paragraphSeparator, control, format],
      .diff defaultIgnorable (.diff .all unassigned.repertoire)])
    (.sum [.runs "A D 200C-200D", prepend, extend])

/-- What follows its grapheme and takes room. -/
def spacing : Repertoire :=
  .union
    (.diff spacingMark.repertoire
      (.union extend
        (.runs
          "102B-102C 1038 1062-1064 1067-106D 1083 1087-108C 108F 109A-109C 1A61 1A63-1A64
           AA7B AA7D 11720-11721")))
    (.runs "E33 EB3")

/-- What characters count as in graphemes. -/
def graphemes : List NamedRepertoire := [
  ⟨["CR"], .runs "D"⟩,
  ⟨["LF"], .runs "A"⟩,
  ⟨["CN", "Control"], controls⟩,
  ⟨["EX", "Extend"], extend⟩,
  ⟨["L"], .runs "1100-115F A960-A97C"⟩,
  ⟨["LV"], .spans openSyllables 1⟩,
  ⟨["LVT"], .spans (openSyllables.map (· + 1)) 27⟩,
  ⟨["PP", "Prepend"], prepend⟩,
  ⟨["RI", "Regional_Indicator"], regionalIndicator⟩,
  ⟨["SM", "SpacingMark"], spacing⟩,
  ⟨["T"], .runs "11A8-11FF D7CB-D7FB"⟩,
  ⟨["V"], .runs "1160-11A7 D7B0-D7C6 16D63 16D67-16D6A"⟩,
  ⟨["ZWJ"], joiner⟩]

/-- What extends a character of a word. -/
def wordExtend : Repertoire :=
  .diff (.sum [graphemeExtend, spacingMark.repertoire, emojiModifier]) joiner

/-- The marks of numbers, which count as digits. -/
def numberMarks : Repertoire := .diff prependedConcatenationMark (.runs "70F")

/-- The letters of Hebrew. -/
def hebrewLetter : Repertoire :=
  .runs "5D0-5EA 5EF-5F2 FB1D FB1F-FB28 FB2A-FB36 FB38-FB3C FB3E FB40-FB41 FB43-FB44 FB46-FB4F"

/-- The letters of Katakana and what is used with them. -/
def katakana : Repertoire :=
  .runs
    "3031-3035 309B-309C 30A0-30FA 30FC-30FF 31F0-31FF 32D0-32FE 3300-3357 FF66-FF9D
     1AFF0-1AFF3 1AFF5-1AFFB 1AFFD-1AFFE 1B000 1B120-1B122 1B155 1B164-1B167"

/-- The letters of scripts that are written without blanks between words. -/
def unseparated : Repertoire :=
  .runs
    "E01-E3A E40-E4E E81-E82 E84 E86-E8A E8C-EA3 EA5 EA7-EBD EC0-EC4 EC6 EC8-ECE EDC-EDF
     1000-103F 1050-108F 109A-109F 1780-17D3 17D7 17DC-17DD 1950-196D 1970-1974 1980-19AB
     19B0-19C9 19DA 19DE-19DF 1A20-1A5E 1A60-1A7C 1AA0-1AAD A9E0-A9EF A9FA-A9FE AA60-AAC2
     AADB-AADF 11700-1171A 1171D-1172B 1173A-1173B 1173F-11746"

/-- The characters of Hiragana. -/
def hiragana : Repertoire :=
  .sum ((Script.table.filter fun s => s.code == "Hira").map Script.repertoire)

/-- The letters of words. -/
def wordLetter : Repertoire :=
  .diff
    (.union alphabetic
      (.runs
        "2C2-2C5 2D2-2D7 2DE-2DF 2E5-2EB 2ED 2EF-2FF 55A-55C 55E 58A 5F3 70F A708-A716
         A720-A721 A789-A78A AB5B"))
    (.sum [ideographic, katakana, unseparated, hiragana, wordExtend, hebrewLetter])

/-- What characters count as in words. -/
def words : List NamedRepertoire := [
  ⟨["LE", "ALetter"], wordLetter⟩,
  ⟨["CR"], .runs "D"⟩,
  ⟨["DQ", "Double_Quote"], .runs "22"⟩,
  ⟨["Extend"], wordExtend⟩,
  ⟨["EX", "ExtendNumLet"], .runs "5F 202F 203F-2040 2054 FE33-FE34 FE4D-FE4F FF3F"⟩,
  ⟨["FO", "Format"],
    .diff format.repertoire
      (.sum [.runs "200B-200D", wordExtend, prependedConcatenationMark])⟩,
  ⟨["HL", "Hebrew_Letter"], hebrewLetter⟩,
  ⟨["KA", "Katakana"], katakana⟩,
  ⟨["LF"], .runs "A"⟩,
  ⟨["ML", "MidLetter"], .runs "3A B7 387 55F 5F4 2027 FE13 FE55 FF1A"⟩,
  ⟨["MN", "MidNum"],
    .runs "2C 3B 37E 589 60C-60D 66C 7F8 2044 FE10 FE14 FE50 FE54 FF0C FF1B"⟩,
  ⟨["MB", "MidNumLet"], .runs "2E 2018-2019 2024 FE52 FF07 FF0E"⟩,
  ⟨["NL", "Newline"], .runs "B-C 85 2028-2029"⟩,
  ⟨["NU", "Numeric"], .sum [decimalNumber.repertoire, .runs "66B", numberMarks]⟩,
  ⟨["RI", "Regional_Indicator"], regionalIndicator⟩,
  ⟨["SQ", "Single_Quote"], .runs "27"⟩,
  ⟨["WSegSpace"], .diff spaceSeparator.repertoire (.runs "A0 2007 202F")⟩,
  ⟨["ZWJ"], joiner⟩]

/-- What extends a character of a sentence. -/
def sentenceExtend : Repertoire := .sum [graphemeExtend, spacingMark.repertoire, joiner]

/-- The lower-case letters of sentences. -/
def sentenceLower : Repertoire :=
  .diff lowercase (.union graphemeExtend (.runs "10D0-10FA 10FD-10FF"))

/-- The upper-case letters of sentences. -/
def sentenceUpper : Repertoire :=
  .diff (.union uppercase titlecaseLetter.repertoire) (.runs "1C90-1CBA 1CBD-1CBF")

/-- The quotation marks that may stand at the end of a sentence. -/
def closing : Repertoire :=
  .runs
    "22 27 AB BB 2018-201F 2039-203A 275B-2760 2E00-2E0D 2E1C-2E1D 2E20-2E21 2E42 1F676-1F678"

/-- What characters count as in sentences. -/
def sentences : List NamedRepertoire := [
  ⟨["AT", "ATerm"], .runs "2E 2024 FE52 FF0E"⟩,
  ⟨["CR"], .runs "D"⟩,
  ⟨["CL", "Close"], .union (anyOf [openPunctuation, closePunctuation]) closing⟩,
  ⟨["EX", "Extend"], sentenceExtend⟩,
  ⟨["FO", "Format"],
    .diff format.repertoire (.sum [.runs "200C-200D", sentenceExtend, numberMarks])⟩,
  ⟨["LF"], .runs "A"⟩,
  ⟨["LO", "Lower"], sentenceLower⟩,
  ⟨["NU", "Numeric"], .sum [decimalNumber.repertoire, .runs "66B-66C", numberMarks]⟩,
  ⟨["LE", "OLetter"],
    .diff (.union alphabetic (.runs "5F3"))
      (.sum [sentenceLower, sentenceUpper, sentenceExtend])⟩,
  ⟨["SC", "SContinue"],
    .runs
      "2C-2D 3A-3B 37E 55D 60C-60D 7F8 1802 1808 2013-2014 3001 FE10-FE11 FE13-FE14 FE31-FE32
       FE50-FE51 FE54-FE55 FE58 FE63 FF0C-FF0D FF1A-FF1B FF64"⟩,
  ⟨["ST", "STerm"], .diff sentenceTerminal (.runs "2E 2024 FE52 FF0E")⟩,
  ⟨["SE", "Sep"], .runs "85 2028-2029"⟩,
  ⟨["SP", "Sp"], .runs "9 B-C 20 A0 1680 2000-200A 202F 205F 3000"⟩,
  ⟨["UP", "Upper"], sentenceUpper⟩]

end SpatialGrammar.Text.Break
