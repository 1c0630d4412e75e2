import SpatialGrammar.Regex.Basic
import SpatialGrammar.Text.Word

/-!
# Searching with regular expressions

A regular expression is turned into a program whose instructions fork in the order of preference:
the left alternative before the right one, one more round of a greedy repetition before none. A
search keeps the places of the program that it can be at in the order of preference and takes them
through the text together. It visits no instruction twice at one place of the text, so that its time
is proportional to program and text. It finds the preferred match at the leftmost place.
-/

namespace SpatialGrammar

/-- An instruction of a matching program; it names the instructions that may follow. -/
inductive Instruction where
  | accept
  | one (set : CharSet) (next : Nat)
  | assert (a : Assertion) (next : Nat)
  | fork (preferred other : Nat)

/-- Instructions, addressed by their index, and the one to begin with. -/
structure Program where
  code : Array Instruction
  first : Nat

namespace Regex

/-- The fork of a repetition: a greedy one prefers another round. -/
def roundFork (greedy : Bool) (round exit : Nat) : Instruction :=
  if greedy then .fork round exit else .fork exit round

/-- Adds an instruction in front of the program so far. -/
def before (instruction : Nat → Instruction) : Program → Program
  | ⟨code, first⟩ =>
    let size := code.size
    ⟨code.push (instruction first), size⟩

/-- Adds at least one round, given how a single round is added, in front of a program. -/
def someRounds (round : Program → Program) (greedy : Bool) : Program → Program
  | ⟨code, exit⟩ =>
    let back := code.size
    match round ⟨code.push .accept, back⟩ with
    | ⟨code, first⟩ => ⟨code.setIfInBounds back (roundFork greedy first exit), first⟩

/-- Adds one round or none in front of a program, with the way out when there is none. -/
def optionalRound (round : Program → Program) (greedy : Bool) (exit : Nat) (p : Program) :
    Program :=
  before (fun first => roundFork greedy first exit) (round p)

/-- Adds the instructions for an expression in front of a program. -/
def prepend : Regex → Program → Program
  | empty, p => p
  | text cs, p => cs.reverse.foldl (fun p c => before (.one (CharSet.single c)) p) p
  | one set, p => before (.one set) p
  | assert a, p => before (.assert a) p
  | group _ a, p => prepend a p
  | cat a b, p => prepend a (prepend b p)
  | alt a b, ⟨code, exit⟩ =>
    match prepend a ⟨code, exit⟩ with
    | ⟨code, left⟩ => before (.fork left) (prepend b ⟨code, exit⟩)
  | times a least (some most) greedy, p =>
    let optional := Nat.repeat (optionalRound (prepend a) greedy p.first) (most - least) p
    Nat.repeat (prepend a) least optional
  | times a 0 none greedy, p =>
    optionalRound (someRounds (prepend a) greedy) greedy p.first p
  | times a (least + 1) none greedy, p =>
    Nat.repeat (prepend a) least (someRounds (prepend a) greedy p)

/-- The program that accepts behind a match of the expression. -/
def program (a : Regex) : Program := prepend a ⟨#[.accept], 0⟩

end Regex

namespace WordKind

/-- Whether a character belongs to words. -/
def contains : WordKind → Char → Bool
  | unicode, c => Text.isWordChar c
  | ascii, c => Text.asciiWordChars.contains c

end WordKind

/-- A place in a text, between two of its characters. -/
structure Spot where
  before : Option Char
  behind : Option Char

namespace Spot

/-- The place in front of the character with an index. -/
def ofIndex (text : Array Char) (i : Nat) : Spot :=
  ⟨if i = 0 then none else text[i - 1]?, text[i]?⟩

/-- Whether a line begins. -/
def startsLine (s : Spot) (returns : Bool) : Bool :=
  s.before.isNone || s.before == some '\n'
    || (returns && s.before == some '\r' && s.behind != some '\n')

/-- Whether a line ends. -/
def endsLine (s : Spot) (returns : Bool) : Bool :=
  if returns then
    s.behind.isNone || s.behind == some '\r' || (s.behind == some '\n' && s.before != some '\r')
  else s.behind.isNone || s.behind == some '\n'

/-- Whether an assertion holds at the place. -/
def satisfies (s : Spot) : Assertion → Bool
  | .textStart => s.before.isNone
  | .textEnd => s.behind.isNone
  | .lineStart returns => s.startsLine returns
  | .lineEnd returns => s.endsLine returns
  | .wordBoundary kind => s.before.any kind.contains != s.behind.any kind.contains
  | .noWordBoundary kind => s.before.any kind.contains == s.behind.any kind.contains
  | .wordStart kind => !s.before.any kind.contains && s.behind.any kind.contains
  | .wordEnd kind => s.before.any kind.contains && !s.behind.any kind.contains
  | .noWordBefore kind => !s.before.any kind.contains
  | .noWordBehind kind => !s.behind.any kind.contains

end Spot

/-- A way through the program: the instruction to execute and where its match begins. -/
structure Way where
  next : Nat
  start : Nat

/-- A search at a place of a text: for each instruction the last place at which it was visited,
counted from one, and the ways to go on from there, the preferred one last. -/
structure Visits where
  seen : Array Nat
  ways : List Way := []

namespace Program

/-- Follows the pending instructions that read no character, the preferred one first, up to those
that do. Each step of the budget takes one instruction from the list; since an instruction is
followed once and adds two at most, twice the size of the program and one more are enough. -/
def follow (p : Program) (text : Array Char) (i start : Nat) : Nat → List Nat → Visits → Visits
  | 0, _, v => v
  | _ + 1, [], v => v
  | budget + 1, at_ :: pending, ⟨seen, ways⟩ =>
    if seen.getD at_ 0 = i + 1 then follow p text i start budget pending ⟨seen, ways⟩
    else
      let seen := seen.setIfInBounds at_ (i + 1)
      match p.code[at_]? with
      | some (.fork preferred other) =>
        follow p text i start budget (preferred :: other :: pending) ⟨seen, ways⟩
      | some (.assert a next) =>
        if (Spot.ofIndex text i).satisfies a then
          follow p text i start budget (next :: pending) ⟨seen, ways⟩
        else follow p text i start budget pending ⟨seen, ways⟩
      | some _ => follow p text i start budget pending ⟨seen, ⟨at_, start⟩ :: ways⟩
      | none => follow p text i start budget pending ⟨seen, ways⟩

/-- Enters the program at an instruction, at a place of the text. -/
def enter (p : Program) (text : Array Char) (i start at_ : Nat) (v : Visits) : Visits :=
  p.follow text i start (2 * p.code.size + 2) [at_] v

/-- Takes ways past a character, the preferred one first. A way that accepts ends the match that it
began and leaves no room for less preferred ones. -/
def advance (p : Program) (text : Array Char) (i : Nat) :
    List Way → Visits → Visits × Option (Nat × Nat)
  | [], v => (v, none)
  | way :: rest, v =>
    match p.code[way.next]? with
    | some .accept => (v, some (way.start, i))
    | some (.one set next) =>
      if text[i]?.any set.contains then
        p.advance text i rest (p.enter text (i + 1) way.start next v)
      else p.advance text i rest v
    | _ => p.advance text i rest v

/-- Goes on with a search at a place, with the number of places behind it and the preferred match so
far. While there is none, a new way begins at each place. -/
def search (p : Program) (text : Array Char) :
    Nat → Nat → Visits → Option (Nat × Nat) → Option (Nat × Nat)
  | behind, i, v, found =>
    let v := if found.isNone then p.enter text i i p.first v else v
    let (v, ended) := p.advance text i v.ways.reverse ⟨v.seen, []⟩
    let found := ended <|> found
    match behind with
    | 0 => found
    | behind + 1 =>
      if v.ways.isEmpty && found.isSome then found else p.search text behind (i + 1) v found

/-- The leftmost match that begins at or behind a place, with its beginning and its end. -/
def leftmost? (p : Program) (text : Array Char) (start : Nat) : Option (Nat × Nat) :=
  if text.size < start then none
  else p.search text (text.size - start) start ⟨Array.replicate p.code.size 0, []⟩ none

/-- The matches from a place on, one behind the other. An empty match is disregarded where the
previous match ended. -/
def matchesFrom (p : Program) (text : Array Char) :
    Nat → Nat → Option Nat → List (Nat × Nat)
  | 0, _, _ => []
  | budget + 1, start, last =>
    let found :=
      match p.leftmost? text start with
      | some (a, b) => if a = b ∧ last = some b then p.leftmost? text (start + 1) else some (a, b)
      | none => none
    match found with
    | none => []
    | some (a, b) => (a, b) :: p.matchesFrom text budget b (some b)

/-- The matches in a text that do not overlap, from left to right, each with the places where it
begins and ends. -/
def findAll (p : Program) (text : List Char) : List (Nat × Nat) :=
  p.matchesFrom text.toArray (text.length + 2) 0 none

end Program

end SpatialGrammar
