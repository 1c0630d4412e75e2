import SpatialGrammar.Document.Token

/-!
# Nodes of a document

A document is a tree of texts, sequences and mappings, written in blocks or within brackets.
`Node.ofText?` reads such a tree. What a plain text stands for is decided later, since it depends on
what is expected in its place.
-/

namespace SpatialGrammar.Document

/-- A part of a document. -/
inductive Node where
  /-- A text, and whether it stands without quotes. -/
  | scalar (plain : Bool) (text : String)
  | sequence (items : List Node)
  /-- Keys and values in the order in which they stand. -/
  | mapping (entries : List (Node × Node))
  deriving Inhabited, Repr

namespace Node

/-- What stands where nothing is written. -/
def missing : Node := scalar true ""

/-- Whether one of some tokens comes next. -/
def isNext (signs : List Token) : List Token → Bool
  | [] => false
  | t :: _ => signs.contains t

mutual

/-- Reads a node. Blocks may begin only in blocks; a bare sequence, whose dashes stand in the column
of the keys around it, only as a key or a value. -/
def readNode (budget : Nat) (block bare : Bool) (ts : List Token) : Option (Node × List Token) :=
  match budget, ts with
  | 0, _ => none
  | _ + 1, .text plain s :: rest => some (scalar plain s, rest)
  | budget + 1, .openBracket :: rest =>
    (readItems budget rest).map fun (items, rest) => (sequence items, rest)
  | budget + 1, .openBrace :: rest =>
    (readPairs budget rest).map fun (entries, rest) => (mapping entries, rest)
  | budget + 1, .dash :: rest =>
    if bare then
      (readBareItems budget (.dash :: rest)).map fun (items, rest) => (sequence items, rest)
    else none
  | budget + 1, .openItems :: rest =>
    if block then (readBlockItems budget rest).map fun (items, rest) => (sequence items, rest)
    else none
  | budget + 1, .openEntries :: rest =>
    if block then (readBlockEntries budget rest).map fun (entries, rest) => (mapping entries, rest)
    else none
  | _, _ => none

/-- Reads a node of a block, which is missing if one of some tokens follows. -/
def readBlockNode (budget : Nat) (bare : Bool) (ends ts : List Token) : Option (Node × List Token) :=
  match budget with
  | 0 => none
  | budget + 1 => if isNext ends ts then some (missing, ts) else readNode budget true bare ts

/-- Reads the items of a block up to its end. -/
def readBlockItems (budget : Nat) (ts : List Token) : Option (List Node × List Token) :=
  match budget, ts with
  | budget + 1, .dash :: rest => do
    let (item, rest) ← readBlockNode budget false [.dash, .closeBlock] rest
    let (items, rest) ← readBlockItems budget rest
    return (item :: items, rest)
  | _, .closeBlock :: rest => some ([], rest)
  | _, _ => none

/-- Reads the items of a bare sequence, as far as there are dashes. -/
def readBareItems (budget : Nat) (ts : List Token) : Option (List Node × List Token) :=
  match budget, ts with
  | budget + 1, .dash :: rest => do
    let (item, rest) ← readBlockNode budget false [.dash, .key, .value, .closeBlock] rest
    let (items, rest) ← readBareItems budget rest
    return (item :: items, rest)
  | 0, .dash :: _ => none
  | _, ts => some ([], ts)

/-- Reads the entries of a block up to its end. -/
def readBlockEntries (budget : Nat) (ts : List Token) :
    Option (List (Node × Node) × List Token) :=
  match budget, ts with
  | budget + 1, .key :: rest => do
    let (key, rest) ← readBlockNode budget true [.key, .value, .closeBlock] rest
    let (value, rest) ←
      match rest with
      | .value :: rest => readBlockNode budget true [.key, .value, .closeBlock] rest
      | rest => some (missing, rest)
    let (entries, rest) ← readBlockEntries budget rest
    return ((key, value) :: entries, rest)
  | _, .closeBlock :: rest => some ([], rest)
  | _, _ => none

/-- Reads a node within brackets, which is missing if a comma or the closing sign follows. -/
def readFlowNode (budget : Nat) (close : Token) (ts : List Token) : Option (Node × List Token) :=
  match budget with
  | 0 => none
  | budget + 1 =>
    if isNext [.comma, close] ts then some (missing, ts) else readNode budget false false ts

/-- Reads the value of a key within brackets, which may be missing. -/
def readFlowValue (budget : Nat) (close : Token) (ts : List Token) : Option (Node × List Token) :=
  match budget, ts with
  | 0, _ => none
  | budget + 1, .value :: rest => readFlowNode budget close rest
  | _, ts => some (missing, ts)

/-- Reads the items of a sequence up to the closing bracket. An item with a key is a mapping with
one entry. Behind a question mark without a key, the token that stands in place of the key is passed
over. -/
def readItems (budget : Nat) (ts : List Token) : Option (List Node × List Token) :=
  match budget, ts with
  | 0, _ => none
  | _, .closeBracket :: rest => some ([], rest)
  | budget + 1, ts => do
    let (item, rest) ←
      match ts with
      | .key :: rest => do
        let (key, rest) ←
          if isNext [.value, .comma, .closeBracket] rest then some (missing, rest.drop 1)
          else readNode budget false false rest
        let (value, rest) ← readFlowValue budget .closeBracket rest
        some (mapping [(key, value)], rest)
      | ts => readNode budget false false ts
    match rest with
    | .closeBracket :: rest => return ([item], rest)
    | .comma :: rest =>
      let (items, rest) ← readItems budget rest
      return (item :: items, rest)
    | _ => none

/-- Reads the entries of a mapping up to the closing brace. -/
def readPairs (budget : Nat) (ts : List Token) : Option (List (Node × Node) × List Token) :=
  match budget, ts with
  | 0, _ => none
  | _, .closeBrace :: rest => some ([], rest)
  | budget + 1, ts => do
    let (entry, rest) ←
      match ts with
      | .key :: rest => do
        let (key, rest) ←
          if isNext [.value] rest then some (missing, rest) else readFlowNode budget .closeBrace rest
        let (value, rest) ← readFlowValue budget .closeBrace rest
        some ((key, value), rest)
      | ts => (readNode budget false false ts).map fun (key, rest) => ((key, missing), rest)
    match rest with
    | .closeBrace :: rest => return ([entry], rest)
    | .comma :: rest =>
      let (entries, rest) ← readPairs budget rest
      return (entry :: entries, rest)
    | _ => none

end

/-- The tree that some tokens describe: one node, perhaps between the lines that begin and end a
document. Three calls at most take a token, so the budget is enough. -/
def ofTokens? (ts : List Token) : Option Node :=
  let ts := if isNext [.beginDocument] ts then ts.drop 1 else ts
  match readNode (3 * ts.length + 1) true false ts with
  | some (node, rest) => if rest.all fun t => t == .endDocument then some node else none
  | none => none

/-- The tree of a document. -/
def ofText? (text : String) : Option Node := (tokens? text).bind ofTokens?

mutual

/-- Whether sequences and mappings are nested no deeper than a limit. -/
def isWithin (limit : Nat) : Node → Bool
  | scalar _ _ => true
  | sequence items => decide (0 < limit) && areWithin (limit - 1) items
  | mapping entries => decide (0 < limit) && entriesWithin (limit - 1) entries

/-- Whether each of some nodes is nested no deeper than a limit. -/
def areWithin (limit : Nat) : List Node → Bool
  | [] => true
  | node :: rest => node.isWithin limit && areWithin limit rest

/-- Whether each key and each value is nested no deeper than a limit. -/
def entriesWithin (limit : Nat) : List (Node × Node) → Bool
  | [] => true
  | (key, value) :: rest =>
    key.isWithin limit && value.isWithin limit && entriesWithin limit rest

end

end Node

end SpatialGrammar.Document
