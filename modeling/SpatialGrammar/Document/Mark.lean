/-!
# Characters in their places

The indentation of a document has a meaning, so its characters are read together with the lines and
columns in which they stand.
-/

namespace SpatialGrammar.Document

/-- A character of a document and its place: the number of bytes before it, its line and its column.
Most line breaks are written as line feeds. -/
structure Mark where
  char : Char
  offset : Nat
  line : Nat
  column : Nat
  deriving Repr

/-- Whether a document may hold a character: controls other than tabs and line breaks are refused,
and so is what no character can be. -/
def isAllowed (c : Char) : Bool :=
  let n := c.toNat
  n == 0x09 || n == 0x0A || n == 0x0D || n == 0x85 || (decide (0x20 ≤ n) && decide (n ≤ 0x7E))
    || (decide (0xA0 ≤ n) && decide (n ≤ 0xFFFD)) || decide (0x10000 ≤ n)

/-- Whether a character ends a line. -/
def isBreak (c : Char) : Bool :=
  c == '\n' || c == '\r' || c == '\u0085' || c == '\u2028' || c == '\u2029'

/-- The character that a line break is read as. The separators of lines and of paragraphs stand for
themselves, every other break is a line feed. -/
def breakChar (c : Char) : Char := if c == '\u2028' || c == '\u2029' then c else '\n'

/-- Gives every character its place. -/
def place (offset line column : Nat) : List Char → List Mark
  | [] => []
  | '\r' :: '\n' :: rest => ⟨'\n', offset, line, column⟩ :: place (offset + 2) (line + 1) 0 rest
  | c :: rest =>
    if isBreak c then
      ⟨breakChar c, offset, line, column⟩ :: place (offset + c.utf8Size) (line + 1) 0 rest
    else ⟨c, offset, line, column⟩ :: place (offset + c.utf8Size) line (column + 1) rest

/-- The characters of a text in their places, unless one of them is refused. A byte order mark at
the beginning takes up a column and is passed over. -/
def marks? (text : String) : Option (List Mark) :=
  let cs := text.toList
  if cs.all isAllowed then
    match cs with
    | '\uFEFF' :: rest => some (place 3 0 1 rest)
    | cs => some (place 0 0 0 cs)
  else none

/-- Whether a character is a space or a tab. -/
def isSpace (c : Char) : Bool := c == ' ' || c == '\t'

/-- Whether a character is a space, a tab or a line break. -/
def isGap (c : Char) : Bool := isSpace c || isBreak c

/-- Whether nothing, a space, a tab or a line break comes next. -/
def atGap : List Mark → Bool
  | [] => true
  | m :: _ => isGap m.char

/-- Whether a line that begins a document, or one that ends it, comes next: three times the same
character at its beginning. -/
def atIndicator (c : Char) : List Mark → Bool
  | a :: b :: d :: rest => a.column == 0 && a.char == c && b.char == c && d.char == c && atGap rest
  | _ => false

/-- Whether a line that begins or ends a document comes next. -/
def atBoundary (ms : List Mark) : Bool := atIndicator '-' ms || atIndicator '.' ms

/-- Skips what stands between tokens: spaces, comments and line breaks. Tabs count as spaces within
brackets, and outside of them where no key may begin. A key may begin on a new line, unless it lies
within brackets; what comes first in the result says whether one may begin now. -/
def skip (bracketed fresh comment : Bool) : List Mark → Bool × List Mark
  | [] => (fresh, [])
  | m :: rest =>
    if isBreak m.char then skip bracketed (fresh || !bracketed) false rest
    else if comment then skip bracketed fresh true rest
    else if m.char == ' ' || (m.char == '\t' && (bracketed || !fresh)) then
      skip bracketed fresh false rest
    else if m.char == '#' then skip bracketed fresh true rest
    else (fresh, m :: rest)

theorem length_skip_le (bracketed fresh comment : Bool) (ms : List Mark) :
    (skip bracketed fresh comment ms).2.length ≤ ms.length := by
  induction ms generalizing fresh comment with
  | nil => simp [skip]
  | cons m rest ih =>
    simp only [skip]
    repeat' split
    all_goals first
      | exact Nat.le_succ_of_le (ih _ _)
      | exact Nat.le_refl _

end SpatialGrammar.Document
