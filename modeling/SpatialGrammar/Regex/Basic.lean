import SpatialGrammar.Text.CharSet

/-!
# Regular expressions

Regular expressions over characters, with greedy and reluctant repetition and with assertions
about the place in the text. They are put together in a normal form: neighbouring characters make
one text, alternatives that are characters make one set. How they are written is in
`Regex.Reader`, what they match in `Regex.Search`.
-/

namespace SpatialGrammar

/-- Which characters words consist of: those of all scripts, or those of ASCII. -/
inductive WordKind where
  | unicode
  | ascii
  deriving DecidableEq, Repr

/-- What an expression can demand of a place in the text. -/
inductive Assertion where
  | textStart
  | textEnd
  /-- A line begins; `returns` says that a carriage return ends a line, too. -/
  | lineStart (returns : Bool)
  | lineEnd (returns : Bool)
  | wordBoundary (kind : WordKind)
  | noWordBoundary (kind : WordKind)
  | wordStart (kind : WordKind)
  | wordEnd (kind : WordKind)
  /-- No word character stands before the place. -/
  | noWordBefore (kind : WordKind)
  /-- No word character stands behind the place. -/
  | noWordBehind (kind : WordKind)
  deriving DecidableEq, Repr

/-- A regular expression. -/
inductive Regex where
  | empty
  /-- Some characters, one behind the other. -/
  | text (cs : List Char)
  | one (set : CharSet)
  | assert (a : Assertion)
  /-- A group that is counted, with its number. -/
  | group (number : Nat) (a : Regex)
  | cat (a b : Regex)
  | alt (a b : Regex)
  /-- A number of rounds; a greedy repetition prefers more rounds, a reluctant one fewer. -/
  | times (a : Regex) (least : Nat) (most : Option Nat) (greedy : Bool)
  deriving DecidableEq, Repr

namespace Regex

/-- The least number of characters that are matched, where it is known that there are matches. -/
def shortest? : Regex → Option Nat
  | empty => some 0
  | text cs => some cs.length
  | one set => if set.runs.isEmpty then none else some 1
  | assert _ => some 0
  | group _ a => a.shortest?
  | cat a b => do return (← a.shortest?) + (← b.shortest?)
  | alt a b => do return min (← a.shortest?) (← b.shortest?)
  | times a least _ _ => do return (← a.shortest?) * least

/-- The greatest number of characters that are matched, where there is one. -/
def longest? : Regex → Option Nat
  | empty => some 0
  | text cs => some cs.length
  | one set => if set.runs.isEmpty then none else some 1
  | assert _ => some 0
  | group _ a => a.longest?
  | cat a b => do return (← a.longest?) + (← b.longest?)
  | alt a b => do return max (← a.longest?) (← b.longest?)
  | times a _ most _ => do return (← a.longest?) * (← most)

/-- The expression for a character of a set. -/
def ofSet (set : CharSet) : Regex :=
  match set.only? with
  | some c => text [c]
  | none => one set

/-- The parts of a sequence. -/
def factors : Regex → List Regex
  | empty => []
  | cat a b => a :: b.factors
  | a => [a]

/-- Puts a part in front of others, joining neighbouring texts. -/
def consFactor (a : Regex) (rest : List Regex) : List Regex :=
  match a, rest with
  | text cs, text ds :: rest => text (cs ++ ds) :: rest
  | a, rest => a :: rest

/-- The sequence of parts that are no sequences themselves. -/
def ofFactors : List Regex → Regex
  | [] => empty
  | [a] => a
  | a :: rest => cat a (ofFactors rest)

/-- The expression that matches one expression behind the other. -/
def sequence (parts : List Regex) : Regex :=
  ofFactors ((parts.flatMap factors).foldr consFactor [])

/-- The alternatives of an expression. -/
def branches : Regex → List Regex
  | alt a b => a :: b.branches
  | a => [a]

/-- The choice between alternatives, of which there is at least one. -/
def ofBranches (first : Regex) : List Regex → Regex
  | [] => first
  | next :: rest => alt first (ofBranches next rest)

/-- The only character that an expression matches. -/
def onlyChar? : Regex → Option Char
  | text [c] => some c
  | _ => none

/-- The set of characters of which an expression matches one. -/
def set? : Regex → Option CharSet
  | one set => some set
  | _ => none

/-- The choice between alternatives as one set of characters, where they are all single characters
or all sets. -/
def charChoice? (alternatives : List Regex) : Option Regex :=
  match alternatives.mapM onlyChar? with
  | some cs => some (ofSet (cs.foldl (fun set c => set.union (CharSet.single c)) CharSet.none))
  | none => (alternatives.mapM set?).map fun sets => ofSet (sets.foldl CharSet.union CharSet.none)

/-- The choice between alternatives, the preferred one first. -/
def choice (alternatives : List Regex) : Regex :=
  match alternatives.flatMap branches with
  | [] => one CharSet.none
  | [a] => a
  | first :: rest => (charChoice? (first :: rest)).getD (ofBranches first rest)

/-- The parts with which two lists of parts begin alike. -/
def commonStart : List Regex → List Regex → List Regex
  | a :: as, b :: bs => if a = b then a :: commonStart as bs else []
  | _, _ => []

/-- Whether an expression is a sequence of several parts. -/
def isSequence : Regex → Bool
  | cat _ _ => true
  | _ => false

/-- The parts with which all alternatives begin, where all of them are sequences. -/
def sharedStart (alternatives : List Regex) : List Regex :=
  match alternatives with
  | first :: rest =>
    if alternatives.all isSequence then
      rest.foldl (fun start a => commonStart start a.factors) first.factors
    else []
  | [] => []

/-- The choice between alternatives; with what all of them begin stands in front of the choice. -/
def alternatives (branchList : List Regex) : Regex :=
  let all := branchList.flatMap branches
  match sharedStart all with
  | [] => choice all
  | start =>
    if all.length < 2 then choice all
    else sequence (start ++ [choice (all.map fun a => sequence (a.factors.drop start.length))])

/-- A repetition. More than one round of what matches no character is no more than one round. -/
def repeated (a : Regex) (least : Nat) (most : Option Nat) (greedy : Bool) : Regex :=
  let (least, most) :=
    if a.longest? = some 0 then (min least 1, some (min (most.getD 1) 1)) else (least, most)
  if most = some 0 then empty
  else if least = 1 ∧ most = some 1 then a
  else times a least most greedy

end Regex

end SpatialGrammar
