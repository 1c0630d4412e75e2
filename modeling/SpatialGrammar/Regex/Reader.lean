import SpatialGrammar.Regex.Footprint
import SpatialGrammar.Regex.Reader.Class

/-!
# Reading regular expressions

The written forms of regular expressions: literals, the dot, bracketed character classes with
nested classes and set operations, the escapes for classes, anchors and code points, groups with
names and flags, alternatives, and the repetitions `*`, `+`, `?` and with counts in braces, each
reluctant when a question mark follows. There are no look-around and no back-references. Groups and
classes are nested up to a limit, and the size of an expression is limited.
-/

namespace SpatialGrammar.Regex

/-- A part of a sequence: the expression, how deep it is nested, and whether a repetition may follow
it. -/
structure Item where
  regex : Regex
  depth : Nat
  repeatable : Bool := true

/-- An open group: the flags outside it, the finished alternatives and the parts of the last one
before it, last ones first, and the number of the group if it is counted. -/
structure OpenGroup where
  flags : Flags
  branches : List (Regex × Nat)
  items : List Item
  number : Option Nat

/-- What has been read: the flags in force, the alternatives and parts of the innermost group, last
ones first, the groups around it, the names of groups and the number of counted groups. -/
structure Progress where
  flags : Flags := {}
  branches : List (Regex × Nat) := []
  items : List Item := []
  outer : List OpenGroup := []
  names : List (List Char) := []
  groups : Nat := 0

/-- How deep groups, classes, repetitions, sequences and choices may be nested. -/
def maxDepth : Nat := 250

namespace Progress

/-- Adds a part to the sequence. -/
def add? (p : Progress) (item : Item) : Option Progress :=
  if item.depth ≤ maxDepth then some { p with items := item :: p.items } else none

/-- The sequence of the parts of the last alternative. -/
def lastBranch (p : Progress) : Regex × Nat :=
  match p.items with
  | [] => (empty, 0)
  | [item] => (item.regex, item.depth)
  | items =>
    (sequence (items.reverse.map Item.regex), (items.map Item.depth).foldl max 0 + 1)

/-- The choice between the alternatives of the innermost group. -/
def contents (p : Progress) : Regex × Nat :=
  match p.branches with
  | [] => p.lastBranch
  | branches =>
    let all := (p.lastBranch :: branches).reverse
    (alternatives (all.map (·.1)), (all.map (·.2)).foldl max 0 + 1)

/-- Begins the next alternative. -/
def nextBranch (p : Progress) : Progress :=
  { p with branches := p.lastBranch :: p.branches, items := [] }

/-- Opens a group under flags; a counted group takes the next number. -/
def openGroup (p : Progress) (flags : Flags) (counted : Bool) : Progress :=
  let groups := if counted then p.groups + 1 else p.groups
  let number := if counted then some groups else none
  { p with flags, branches := [], items := [], groups
           outer := ⟨p.flags, p.branches, p.items, number⟩ :: p.outer }

/-- Closes the innermost group. -/
def closeGroup? (p : Progress) : Option Progress :=
  match p.outer with
  | [] => none
  | g :: outer =>
    let (a, depth) := p.contents
    let a := match g.number with
      | some n => group n a
      | none => a
    { p with flags := g.flags, branches := g.branches, items := g.items, outer }.add?
      { regex := a, depth := depth + 1 }

/-- Repeats the last part. -/
def repeatLast? (p : Progress) (least : Nat) (most : Option Nat) (reluctant : Bool) :
    Option Progress :=
  match p.items with
  | ⟨a, depth, true⟩ :: items =>
    { p with items }.add?
      { regex := repeated a least most (reluctant == p.flags.swapGreed), depth := depth + 1 }
  | _ => none

/-- The whole expression, where no group is open. -/
def result? (p : Progress) : Option Regex :=
  if p.outer.isEmpty then
    let (a, depth) := p.contents
    if depth ≤ maxDepth then some a else none
  else none

end Progress

/-- Reads the letters of a group of flags, up to its closing parenthesis or colon. A letter may
occur once; behind a minus sign, which a letter has to follow, letters switch off. The answer tells
whether a colon follows. -/
def readFlags (flags : Flags) (on : Bool) (seen : List Char) :
    List Char → Option ((Flags × Bool) × List Char)
  | [] => none
  | c :: rest =>
    if c == ')' || c == ':' then
      if seen.head? = some '-' ∨ (c = ')' ∧ seen = []) then none else some ((flags, c == ':'), rest)
    else if seen.contains c then none
    else
      match c with
      | '-' => readFlags flags false ('-' :: seen) rest
      | 'i' => readFlags { flags with caseless := on } on (c :: seen) rest
      | 'm' => readFlags { flags with multiline := on } on (c :: seen) rest
      | 's' => readFlags { flags with dotAll := on } on (c :: seen) rest
      | 'U' => readFlags { flags with swapGreed := on } on (c :: seen) rest
      | 'u' => readFlags { flags with unicode := on } on (c :: seen) rest
      | 'R' => readFlags { flags with returns := on } on (c :: seen) rest
      | 'x' => readFlags { flags with verbose := on } on (c :: seen) rest
      | _ => none

/-- The letters of all scripts. -/
def nameLetters : CharSet := Text.Property.alphabetic.members

/-- The numbers of all scripts. -/
def nameNumbers : CharSet :=
  (Text.Category.anyOf [.decimalNumber, .letterNumber, .otherNumber]).members

/-- Whether a text may be the name of a group. -/
def isGroupName : List Char → Bool
  | [] => false
  | c :: cs =>
    (c == '_' || nameLetters.contains c)
      && cs.all fun c => ['_', '.', '[', ']'].contains c || nameLetters.contains c
        || nameNumbers.contains c

/-- Opens a named group, from behind the angle bracket. -/
def openNamed? (p : Progress) (cs : List Char) : Option (Progress × List Char) := do
  let (name, rest) ← Text.cut? (· == '>') cs
  if isGroupName name && !p.names.contains name then
    return ({ p with names := name :: p.names }.openGroup p.flags true, rest)
  else none

/-- Opens a group or changes the flags, from behind the parenthesis. -/
def readOpenGroup (p : Progress) (cs : List Char) : Option (Progress × List Char) :=
  match skip p.flags cs with
  | '?' :: '=' :: _ | '?' :: '!' :: _ | '?' :: '<' :: '=' :: _ | '?' :: '<' :: '!' :: _ => none
  | '?' :: 'P' :: '<' :: rest | '?' :: '<' :: rest => openNamed? p rest
  | '?' :: rest => do
    match ← readFlags p.flags true [] rest with
    | ((flags, true), rest) => return (p.openGroup flags false, rest)
    | ((flags, false), rest) =>
      let p ← { p with flags }.add? { regex := empty, depth := 0, repeatable := false }
      return (p, rest)
  | rest => some (p.openGroup p.flags true, rest)

/-- The expression for a character under flags. -/
def ofChar (flags : Flags) (c : Char) : Regex :=
  if flags.caseless && (flags.unicode || decide (c.toNat < 0x80)) then
    ofSet (flags.foldCase (CharSet.single c))
  else text [c]

/-- The characters that the dot stands for. -/
def dotSet (flags : Flags) : CharSet :=
  if flags.dotAll then CharSet.all
  else if flags.returns then (CharSet.ofText "A D").compl
  else (CharSet.ofText "A").compl

/-- Reads a part that is no group, no class and no repetition. -/
def readPrimitive (flags : Flags) (cs : List Char) : Option (Regex × List Char) :=
  match cs with
  | '.' :: rest => if flags.unicode then some (ofSet (dotSet flags), rest) else none
  | '^' :: rest =>
    some (assert (if flags.multiline then .lineStart flags.returns else .textStart), rest)
  | '$' :: rest =>
    some (assert (if flags.multiline then .lineEnd flags.returns else .textEnd), rest)
  | '\\' :: rest => do
    match ← readEscape flags rest with
    | (.char c, rest) => return (ofChar flags c, rest)
    | (.set s, rest) => return (ofSet s, rest)
    | (.assert a, rest) => return (assert a, rest)
  | c :: rest => some (ofChar flags c, rest)
  | [] => none

/-- Reads the question mark of a reluctant repetition. -/
def readReluctance : List Char → Bool × List Char
  | '?' :: rest => (true, rest)
  | rest => (false, rest)

/-- Reads the parts of an expression to its end. Each step takes a character at least. -/
def readItems : Nat → Progress → List Char → Option Regex
  | 0, _, _ => none
  | steps + 1, p, cs =>
    let repetition (least : Nat) (most : Option Nat) (rest : List Char) : Option Regex :=
      let (reluctant, rest) := readReluctance rest
      match p.repeatLast? least most reluctant with
      | some p => readItems steps p rest
      | none => none
    match skip p.flags cs with
    | [] => p.result?
    | '(' :: rest =>
      match readOpenGroup p rest with
      | some (p, rest) => readItems steps p rest
      | none => none
    | ')' :: rest =>
      match p.closeGroup? with
      | some p => readItems steps p rest
      | none => none
    | '|' :: rest => readItems steps p.nextBranch rest
    | '[' :: rest =>
      match readClass p.flags rest with
      | none => none
      | some ((set, depth), rest) =>
        match p.add? { regex := ofSet set, depth } with
        | some p => readItems steps p rest
        | none => none
    | '?' :: rest => repetition 0 (some 1) rest
    | '*' :: rest => repetition 0 none rest
    | '+' :: rest => repetition 1 none rest
    | '{' :: rest =>
      match readCounts p.flags rest with
      | some ((least, most), rest) => repetition least most (skip p.flags rest)
      | none => none
    | rest =>
      match readPrimitive p.flags rest with
      | none => none
      | some (a, rest) =>
        match p.add? { regex := a, depth := 0 } with
        | some p => readItems steps p rest
        | none => none

/-- Reads the written form of a regular expression. -/
def ofText? (text : String) : Option Regex :=
  (readItems (text.length + 1) {} text.toList).filter isSmallEnough

end SpatialGrammar.Regex
