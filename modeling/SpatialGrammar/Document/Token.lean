import SpatialGrammar.Document.Scalar

/-!
# Tokens

A document is cut into texts and signs. Blocks have no closing signs of their own: they begin and
end by the columns of what stands in them, and the scanner writes their bounds down as tokens. What
precedes a colon on its line turns out to be a key only there, so the scanner remembers what could
be one and marks it afterwards.
-/

namespace SpatialGrammar.Document

/-- A token of a document. -/
inductive Token where
  /-- A text, and whether it stands without quotes. -/
  | text (plain : Bool) (s : String)
  | openBracket
  | closeBracket
  | openBrace
  | closeBrace
  | comma
  /-- The dash before an item. -/
  | dash
  /-- What follows is a key. -/
  | key
  /-- What follows is the value of a key. -/
  | value
  /-- A block of items begins. -/
  | openItems
  /-- A block of keys and values begins. -/
  | openEntries
  /-- A block ends. -/
  | closeBlock
  | beginDocument
  | endDocument
  deriving DecidableEq, Repr

/-- A place where a key may have begun. -/
structure Candidate where
  /-- The number of tokens before it. -/
  index : Nat
  mark : Mark
  /-- Whether nothing but a key can stand there. -/
  required : Bool

/-- Whether a colon makes a key of the candidate: it stands on the same line and not too far on. -/
def Candidate.reaches (k : Candidate) (colon : Mark) : Bool :=
  k.mark.line == colon.line && decide (colon.offset ≤ k.mark.offset + 1024)

/-- What the scanner knows between two tokens. -/
structure Scanner where
  /-- The tokens so far, the last one first, and their number. -/
  tokens : List Token
  count : Nat
  /-- The columns of the open blocks, the innermost one first. -/
  blocks : List Nat
  /-- The candidates around the open brackets, the innermost one first. -/
  outer : List (Option Candidate)
  /-- What can become a key within the innermost brackets. -/
  candidate : Option Candidate
  /-- Whether a key may begin here. -/
  fresh : Bool

namespace Scanner

/-- The scanner before a document. -/
def start : Scanner :=
  { tokens := [], count := 0, blocks := [], outer := [], candidate := none, fresh := true }

/-- Whether the scanner is within brackets. -/
def bracketed (s : Scanner) : Bool := !s.outer.isEmpty

/-- The least column that belongs to the inside of the innermost block. -/
def margin (s : Scanner) : Nat :=
  match s.blocks with
  | [] => 0
  | column :: _ => column + 1

/-- Writes a token down. -/
def emit (s : Scanner) (t : Token) : Scanner :=
  { s with tokens := t :: s.tokens, count := s.count + 1 }

/-- Writes a token down behind a number of others. -/
def insert (s : Scanner) (index : Nat) (t : Token) : Scanner :=
  let (later, earlier) := s.tokens.splitAt (s.count - index)
  { s with tokens := later ++ t :: earlier, count := s.count + 1 }

/-- Gives the candidate up, unless it has to be a key. -/
def forget (s : Scanner) : Option Scanner :=
  match s.candidate with
  | some k => if k.required then none else some { s with candidate := none }
  | none => some s

/-- Remembers that a key may begin here. It has to be one in the column of the innermost block. -/
def remember (s : Scanner) (m : Mark) : Option Scanner :=
  if s.fresh then do
    let required := !s.bracketed && s.blocks.head? == some m.column
    return { (← s.forget) with candidate := some { index := s.count, mark := m, required } }
  else some s

/-- Begins a block in a column, unless one goes on there. Within brackets there are no blocks. -/
def openBlock (s : Scanner) (index column : Nat) (t : Token) : Scanner :=
  if !s.bracketed && decide (s.margin ≤ column) then
    { s.insert index t with blocks := column :: s.blocks }
  else s

/-- Ends a number of blocks. -/
def closeBlocks (s : Scanner) (n : Nat) : Scanner :=
  { s with
    tokens := List.replicate n .closeBlock ++ s.tokens
    count := s.count + n
    blocks := s.blocks.drop n }

/-- Ends the blocks whose columns lie behind a column. -/
def closeBeyond (s : Scanner) (column : Nat) : Scanner :=
  if s.bracketed then s
  else s.closeBlocks (s.blocks.takeWhile fun block => decide (column < block)).length

/-- Ends all blocks. -/
def closeAll (s : Scanner) : Scanner :=
  if s.bracketed then s else s.closeBlocks s.blocks.length

/-- A line that begins or ends a document. -/
def boundary (s : Scanner) (t : Token) : Option Scanner := do
  return { (← s.closeAll.forget).emit t with fresh := false }

/-- An opening bracket or brace, which may begin a key. -/
def openFlow (s : Scanner) (m : Mark) (t : Token) : Option Scanner := do
  let s ← s.remember m
  return { s.emit t with outer := s.candidate :: s.outer, candidate := none, fresh := true }

/-- A closing bracket or brace. -/
def closeFlow (s : Scanner) (t : Token) : Option Scanner := do
  let s ← s.forget
  let (candidate, outer) := match s.outer with
    | [] => (s.candidate, [])
    | candidate :: outer => (candidate, outer)
  return { s.emit t with outer, candidate, fresh := false }

/-- A comma. -/
def comma (s : Scanner) : Option Scanner := do
  return { (← s.forget).emit .comma with fresh := true }

/-- A dash before an item. -/
def dash (s : Scanner) (m : Mark) : Option Scanner :=
  if s.bracketed || s.fresh then do
    let s ← (s.openBlock s.count m.column .openItems).forget
    return { s.emit .dash with fresh := true }
  else none

/-- A question mark before a key. -/
def question (s : Scanner) (m : Mark) : Option Scanner :=
  if s.bracketed || s.fresh then do
    let s ← (s.openBlock s.count m.column .openEntries).forget
    return { s.emit .key with fresh := !s.bracketed }
  else none

/-- A colon. It makes a key of the candidate, or else belongs to a key behind a question mark. -/
def colon (s : Scanner) (m : Mark) : Option Scanner :=
  match s.candidate.filter fun k => k.required || k.reaches m with
  | some k =>
    if k.reaches m then
      let s := (s.insert k.index .key).openBlock k.index k.mark.column .openEntries
      some { s.emit .value with candidate := none, fresh := false }
    else none
  | none =>
    if s.bracketed || s.fresh then
      let s := s.openBlock s.count m.column .openEntries
      some { s.emit .value with fresh := !s.bracketed }
    else none

/-- A text. -/
def text (s : Scanner) (m : Mark) (plain : Bool) (read : ReadText) : Option Scanner := do
  let s ← s.remember m
  return { s.emit (.text plain (String.ofList read.chars)) with fresh := read.broken }

/-- Reads the token that begins with a character, and gives what follows it. -/
def step (s : Scanner) (m : Mark) (rest : List Mark) : Option (Scanner × List Mark) :=
  let s := s.closeBeyond m.column
  if atIndicator '-' (m :: rest) then
    (s.boundary .beginDocument).map fun s => (s, rest.drop 2)
  else if atIndicator '.' (m :: rest) then
    (s.boundary .endDocument).map fun s => (s, rest.drop 2)
  else if m.char == '[' then (s.openFlow m .openBracket).map fun s => (s, rest)
  else if m.char == '\x7b' then (s.openFlow m .openBrace).map fun s => (s, rest)
  else if m.char == ']' then (s.closeFlow .closeBracket).map fun s => (s, rest)
  else if m.char == '\x7d' then (s.closeFlow .closeBrace).map fun s => (s, rest)
  else if m.char == ',' then s.comma.map fun s => (s, rest)
  else if m.char == '-' && atGap rest then (s.dash m).map fun s => (s, rest)
  else if m.char == '?' && (s.bracketed || atGap rest) then (s.question m).map fun s => (s, rest)
  else if m.char == ':' && (s.bracketed || atGap rest) then (s.colon m).map fun s => (s, rest)
  else do
    let (plain, read) ← readScalar s.bracketed s.margin m rest
    return (← s.text m plain read, read.rest)

/-- Reads tokens up to the end. Every round takes a character at least, so as many rounds as there
are characters, and one for the end, are enough. -/
def run (rounds : Nat) (s : Scanner) (ms : List Mark) : Option (List Token) :=
  match rounds with
  | 0 => none
  | rounds + 1 => do
    let (fresh, ms) := skip s.bracketed s.fresh false ms
    match ms with
    | [] => return (← s.closeAll.forget).tokens.reverse
    | m :: rest =>
      let (s, rest) ← step { s with fresh } m rest
      run rounds s rest

end Scanner

/-- The tokens of a document. -/
def tokens? (text : String) : Option (List Token) := do
  let ms ← marks? text
  Scanner.start.run (ms.length + 1) ms

end SpatialGrammar.Document
