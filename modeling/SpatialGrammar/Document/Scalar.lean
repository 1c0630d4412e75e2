import SpatialGrammar.Document.Mark

/-!
# Scalars

The three written forms of a text: plain, in single quotes and in double quotes. Each of them may
run over several lines, which are then folded: one line feed becomes a space, of several breaks
the first one is dropped if it is a line feed.
-/

namespace SpatialGrammar.Document

/-- The blanks and line breaks that were passed since the last visible character. -/
inductive Gap where
  | nothing
  /-- Blanks within a line, the last one first. -/
  | blanks (cs : List Char)
  /-- A line break, none if a backslash took it out, and the further breaks, the last one first. -/
  | breaks (first : Option Char) (further : List Char)

namespace Gap

/-- The gap with one more blank; blanks next to a line break do not count. -/
def blank (c : Char) : Gap → Gap
  | nothing => blanks [c]
  | blanks cs => blanks (c :: cs)
  | gap => gap

/-- The gap with one more line break. -/
def lineBreak (c : Char) : Gap → Gap
  | nothing | blanks _ => breaks (some c) []
  | breaks first further => breaks first (c :: further)

/-- Writes what the gap stands for behind a reversed text. -/
def writeTo (acc : List Char) : Gap → List Char
  | nothing => acc
  | blanks cs => cs ++ acc
  | breaks none further => further ++ acc
  | breaks (some '\n') [] => ' ' :: acc
  | breaks (some '\n') further => further ++ acc
  | breaks (some c) further => further ++ c :: acc

/-- Whether the gap is empty. -/
def isEmpty : Gap → Bool
  | nothing => true
  | _ => false

/-- Whether the gap holds a line break. -/
def isBroken : Gap → Bool
  | breaks _ _ => true
  | _ => false

end Gap

/-- Whether a character separates items within brackets. -/
def isFlowSign (c : Char) : Bool := c == ',' || c == '[' || c == ']' || c == '\x7b' || c == '\x7d'

/-- Whether a colon is followed by a character that it may not be followed by within brackets. -/
def isStrayColon (c : Char) (rest : List Mark) : Bool :=
  c == ':' &&
    match rest with
    | [] => false
    | m :: _ => isFlowSign m.char || m.char == '?'

/-- Whether a plain text ends before a character. -/
def endsPlain (bracketed : Bool) (c : Char) (rest : List Mark) : Bool :=
  (c == ':' && atGap rest) || (bracketed && isFlowSign c)

/-- Whether a plain text can begin with a character. -/
def beginsPlain (bracketed : Bool) (c : Char) (rest : List Mark) : Bool :=
  if c == '-' then !atGap rest
  else if c == '?' || c == ':' then !bracketed && !atGap rest
  else
    !isGap c && !isFlowSign c
      && !(['#', '&', '*', '!', '|', '>', '\'', '"', '%', '@', '\x60'].contains c)

/-- A text that was read: its characters, whether a line break stands behind it, and what follows. -/
structure ReadText where
  chars : List Char
  broken : Bool
  rest : List Mark

/-- Reads on in a plain text. Outside of brackets it goes on only on lines that are indented as far
as the margin; no line may be indented less than that by a tab. -/
def readPlain (bracketed : Bool) (margin : Nat) (acc : List Char) (gap : Gap) :
    List Mark → Option ReadText
  | [] => some ⟨acc.reverse, gap.isBroken, []⟩
  | m :: rest =>
    let done := some ⟨acc.reverse, gap.isBroken, m :: rest⟩
    if isSpace m.char then
      if gap.isBroken && m.char == '\t' && decide (m.column < margin) then none
      else readPlain bracketed margin acc (gap.blank m.char) rest
    else if isBreak m.char then readPlain bracketed margin acc (gap.lineBreak m.char) rest
    else if gap.isBroken && !bracketed && decide (m.column < margin) then done
    else if gap.isBroken && atBoundary (m :: rest) then done
    else if !gap.isEmpty && m.char == '#' then done
    else if bracketed && isStrayColon m.char rest then none
    else if endsPlain bracketed m.char rest then done
    else readPlain bracketed margin (m.char :: gap.writeTo acc) .nothing rest

/-- Reads on behind a single quote; two quotes stand for one. -/
def readSingle (acc : List Char) (gap : Gap) : List Mark → Option ReadText
  | [] => none
  | ⟨'\'', _, _, _⟩ :: ⟨'\'', _, _, _⟩ :: rest => readSingle ('\'' :: gap.writeTo acc) .nothing rest
  | m :: rest =>
    if m.char == '\'' then some ⟨(gap.writeTo acc).reverse, false, rest⟩
    else if isSpace m.char then readSingle acc (gap.blank m.char) rest
    else if isBreak m.char then readSingle acc (gap.lineBreak m.char) rest
    else if atBoundary (m :: rest) then none
    else readSingle (m.char :: gap.writeTo acc) .nothing rest

/-- The character that a letter stands for behind a backslash. -/
def escaped? (c : Char) : Option Char :=
  match c with
  | '0' => some (Char.ofNat 0)
  | 'a' => some (Char.ofNat 7)
  | 'b' => some (Char.ofNat 8)
  | 't' | '\t' => some '\t'
  | 'n' => some '\n'
  | 'v' => some (Char.ofNat 11)
  | 'f' => some (Char.ofNat 12)
  | 'r' => some '\r'
  | 'e' => some (Char.ofNat 27)
  | ' ' => some ' '
  | '"' => some '"'
  | '/' => some '/'
  | '\\' => some '\\'
  | 'N' => some (Char.ofNat 0x85)
  | '_' => some (Char.ofNat 0xA0)
  | 'L' => some (Char.ofNat 0x2028)
  | 'P' => some (Char.ofNat 0x2029)
  | _ => none

/-- How many hexadecimal digits follow a letter behind a backslash. -/
def codeLength? (c : Char) : Option Nat :=
  match c with
  | 'x' => some 2
  | 'u' => some 4
  | 'U' => some 8
  | _ => none

/-- The value of a hexadecimal digit. -/
def hexDigit? (c : Char) : Option Nat :=
  if c.isDigit then some (c.toNat - '0'.toNat)
  else if 'a' ≤ c ∧ c ≤ 'f' then some (c.toNat - 'a'.toNat + 10)
  else if 'A' ≤ c ∧ c ≤ 'F' then some (c.toNat - 'A'.toNat + 10)
  else none

/-- Where the reading of a text in double quotes stands. -/
inductive QuoteState where
  | text
  /-- Behind a backslash. -/
  | escape
  /-- Within the code of a character: digits to come, and the value so far. -/
  | code (left value : Nat)

/-- Reads on behind a double quote. -/
def readDouble (state : QuoteState) (acc : List Char) (gap : Gap) : List Mark → Option ReadText
  | [] => none
  | m :: rest =>
    match state with
    | .text =>
      if m.char == '"' then some ⟨(gap.writeTo acc).reverse, false, rest⟩
      else if isSpace m.char then readDouble .text acc (gap.blank m.char) rest
      else if isBreak m.char then readDouble .text acc (gap.lineBreak m.char) rest
      else if atBoundary (m :: rest) then none
      else if m.char == '\\' then readDouble .escape (gap.writeTo acc) .nothing rest
      else readDouble .text (m.char :: gap.writeTo acc) .nothing rest
    | .escape =>
      if isBreak m.char then readDouble .text acc (.breaks none []) rest
      else
        match escaped? m.char, codeLength? m.char with
        | some c, _ => readDouble .text (c :: acc) .nothing rest
        | none, some n => readDouble (.code n 0) acc .nothing rest
        | none, none => none
    | .code left value =>
      match hexDigit? m.char with
      | none => none
      | some d =>
        let value := value * 16 + d
        if left ≤ 1 then
          if h : value.isValidChar then
            readDouble .text (Char.ofNatAux value h :: acc) .nothing rest
          else none
        else readDouble (.code (left - 1) value) acc .nothing rest

/-- Reads a text in any of its forms. What comes first in the result says whether it is plain. -/
def readScalar (bracketed : Bool) (margin : Nat) (m : Mark) (rest : List Mark) :
    Option (Bool × ReadText) :=
  if m.char == '\'' then (readSingle [] .nothing rest).map fun read => (false, read)
  else if m.char == '"' then (readDouble .text [] .nothing rest).map fun read => (false, read)
  else if beginsPlain bracketed m.char rest then
    (readPlain bracketed margin [] .nothing (m :: rest)).map fun read => (true, read)
  else none

end SpatialGrammar.Document
