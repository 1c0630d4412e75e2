import SpatialGrammar.Regex.Reader.Escape

/-!
# Bracketed classes

Sets of characters in brackets: characters, ranges, escapes, named classes and classes within
classes, and the operations `&&`, `--` and `~~` on what stands left and right of them. The reader
keeps the open brackets on a stack.
-/

namespace SpatialGrammar.Regex

/-- The named classes of ASCII characters. -/
def asciiClass? : String → Option CharSet
  | "alnum" => some (.ofText "30-39 41-5A 61-7A")
  | "alpha" => some (.ofText "41-5A 61-7A")
  | "ascii" => some (.ofText "0-7F")
  | "blank" => some (.ofText "9 20")
  | "cntrl" => some (.ofText "0-1F 7F")
  | "digit" => some (.ofText "30-39")
  | "graph" => some (.ofText "21-7E")
  | "lower" => some (.ofText "61-7A")
  | "print" => some (.ofText "20-7E")
  | "punct" => some (.ofText "21-2F 3A-40 5B-60 7B-7E")
  | "space" => some (.ofText "9-D 20")
  | "upper" => some (.ofText "41-5A")
  | "word" => some (.ofText "30-39 41-5A 5F 61-7A")
  | "xdigit" => some (.ofText "30-39 41-46 61-66")
  | _ => none

/-- A named class, from behind its bracket: its set, whether it is negated and what follows. -/
def namedClass? (cs : List Char) : Option (CharSet × Bool × List Char) :=
  match cs with
  | ':' :: rest =>
    let (negated, rest) := match rest with
      | '^' :: rest => (true, rest)
      | rest => (false, rest)
    match Text.cut? (· == ':') rest with
    | some (name, ']' :: rest) =>
      (asciiClass? (String.ofList name)).map fun set => (set, negated, rest)
    | _ => none
  | _ => none

/-- Items of a class that stand next to each other: their union, their number, and how deep the
deepest of them is nested. -/
structure ClassItems where
  members : CharSet := CharSet.none
  count : Nat := 0
  depth : Nat := 0

/-- The items with one more, which is nested to a depth. -/
def ClassItems.add (items : ClassItems) (set : CharSet) (depth : Nat) : ClassItems :=
  ⟨items.members.union set, items.count + 1, max items.depth depth⟩

/-- How deep the items are nested; several of them make one more level. -/
def ClassItems.totalDepth (items : ClassItems) : Nat :=
  if 2 ≤ items.count then items.depth + 1 else items.depth

/-- An operation on two sets. -/
inductive SetOperation where
  | intersection
  | difference
  | symmetricDifference

/-- The combination of two sets. -/
def SetOperation.apply : SetOperation → CharSet → CharSet → CharSet
  | intersection, a, b => a.inter b
  | difference, a, b => a.diff b
  | symmetricDifference, a, b => a.symmDiff b

/-- The operation that begins a text, and what follows it. -/
def setOperation? : List Char → Option (SetOperation × List Char)
  | '&' :: '&' :: rest => some (.intersection, rest)
  | '-' :: '-' :: rest => some (.difference, rest)
  | '~' :: '~' :: rest => some (.symmetricDifference, rest)
  | _ => none

/-- An open bracket: the items around it, whether the class is negated, and the set to the left of
the last operation in it with its depth. -/
structure OpenClass where
  around : ClassItems
  negated : Bool
  pending : Option (CharSet × Nat × SetOperation) := none

/-- The set in a bracket so far and its depth: the pending operation applied to the items. -/
def OpenClass.combine (flags : Flags) (bracket : OpenClass) (items : ClassItems) : CharSet × Nat :=
  match bracket.pending with
  | none => (items.members, items.totalDepth)
  | some (left, depth, operation) =>
    (operation.apply (flags.foldCase left) (flags.foldCase items.members),
      max depth items.totalDepth + 1)

/-- Reads how a class opens, from behind its bracket: a sign of negation, and hyphens or a closing
bracket that stand for themselves. -/
def readOpening (flags : Flags) (cs : List Char) : Bool × ClassItems × List Char :=
  let (negated, cs) := match skip flags cs with
    | '^' :: rest => (true, skip flags rest)
    | rest => (false, rest)
  let (hyphens, cs) := takeWhile flags (· == '-') false cs
  let items := hyphens.foldl (fun (items : ClassItems) c => items.add (CharSet.single c) 0) {}
  match hyphens, cs with
  | [], ']' :: rest => (negated, items.add (CharSet.single ']') 0, rest)
  | _, rest => (negated, items, rest)

/-- The character behind a hyphen that decides whether it makes a range: in a verbose expression
the first one that is neither blank nor the first sign of a comment. -/
def behindHyphen? (flags : Flags) (cs : List Char) : Option Char :=
  if flags.verbose then
    let word := cs.dropWhile Text.isBlank
    let word := if word.head? = some '#' then (word.drop 1).dropWhile Text.isBlank else word
    word.head? <|> cs.head?
  else cs.head?

/-- Reads one end of a range or one escape. -/
def readClassPrimitive (flags : Flags) (cs : List Char) : Option (Primitive × List Char) :=
  match cs with
  | '\\' :: rest => readEscape flags rest
  | c :: rest => some (.char c, rest)
  | [] => none

/-- The set of the characters from one to another, which are ASCII characters where only those are
admitted. -/
def rangeSet? (flags : Flags) (first last : Char) : Option CharSet :=
  if last.toNat < first.toNat ∨ (¬ flags.unicode ∧ 0x80 ≤ last.toNat) then none
  else some (CharSet.range first last)

/-- Reads an item of a class that is no bracket. -/
def readClassItem (flags : Flags) (cs : List Char) : Option (CharSet × List Char) := do
  let (first, rest) ← readClassPrimitive flags cs
  match skip flags rest with
  | [] => none
  | c :: rest =>
    let behind := behindHyphen? flags rest
    if c != '-' || behind == some ']' || behind == some '-' then
      match first with
      | .char d => return (← rangeSet? flags d d, c :: rest)
      | .set s => return (s, c :: rest)
      | .assert _ => none
    else
      match first, ← readClassPrimitive flags (skip flags rest) with
      | .char first, (.char last, rest) => return (← rangeSet? flags first last, rest)
      | _, _ => none

/-- Reads the items of a class up to the bracket that closes the outermost one: the set and how deep
it is nested. Each step takes a character at least. -/
def readClassItems (flags : Flags) :
    Nat → OpenClass → List OpenClass → ClassItems → List Char →
      Option ((CharSet × Nat) × List Char)
  | 0, _, _, _, _ => none
  | steps + 1, bracket, outer, items, cs =>
    match skip flags cs with
    | [] => none
    | '[' :: rest =>
      match namedClass? rest with
      | some (set, negated, rest) =>
        match flags.negate? negated (flags.foldCase set) with
        | none => none
        | some set => readClassItems flags steps bracket outer (items.add set 0) rest
      | none =>
        let (negated, inner, rest) := readOpening flags rest
        readClassItems flags steps ⟨items, negated, none⟩ (bracket :: outer) inner rest
    | ']' :: rest =>
      let (set, depth) := bracket.combine flags items
      match flags.negate? bracket.negated (flags.foldCase set), outer with
      | none, _ => none
      | some set, [] => some ((set, depth + 1), rest)
      | some set, bracket' :: outer =>
        readClassItems flags steps bracket' outer (bracket.around.add set (depth + 1)) rest
    | cs =>
      match setOperation? cs with
      | some (operation, rest) =>
        let (set, depth) := bracket.combine flags items
        let bracket := { bracket with pending := some (set, depth, operation) }
        readClassItems flags steps bracket outer {} rest
      | none =>
        match readClassItem flags cs with
        | none => none
        | some (set, rest) => readClassItems flags steps bracket outer (items.add set 0) rest

/-- Reads a class from behind its opening bracket: its set and how deep it is nested. -/
def readClass (flags : Flags) (cs : List Char) : Option ((CharSet × Nat) × List Char) :=
  let (negated, items, rest) := readOpening flags cs
  readClassItems flags (rest.length + 1) ⟨{}, negated, none⟩ [] items rest

end SpatialGrammar.Regex
