import SpatialGrammar.Text.Blank

/-!
# Sets of characters

A set of characters is kept as ascending runs of code points that neither overlap nor touch. The
surrogate code points, which are no characters, belong to no set, nor to the complement of one.
-/

namespace SpatialGrammar

/-- A set of characters: runs of code points, each with its first and its last one. -/
structure CharSet where
  runs : List (Nat × Nat)
  deriving DecidableEq, Repr

namespace CharSet

/-- Puts a run in front of runs that do not begin before it, joining what overlaps or touches. -/
def joinRuns : Nat × Nat → List (Nat × Nat) → List (Nat × Nat)
  | run, [] => [run]
  | (first, last), (nextFirst, nextLast) :: rest =>
    if nextFirst ≤ last + 1 then joinRuns (first, max last nextLast) rest
    else (first, last) :: joinRuns (nextFirst, nextLast) rest

/-- The set of ascending runs, which may overlap. -/
def ofAscending : List (Nat × Nat) → CharSet
  | [] => ⟨[]⟩
  | run :: rest => ⟨joinRuns run rest⟩

/-- The set of runs in any order. -/
def ofRuns (runs : List (Nat × Nat)) : CharSet :=
  ofAscending (runs.mergeSort fun a b => decide (a.1 ≤ b.1))

/-- The set without members. -/
def none : CharSet := ⟨[]⟩

/-- The set of one character. -/
def single (c : Char) : CharSet := ⟨[(c.toNat, c.toNat)]⟩

/-- The set of the characters from one to another: what of the run lies before and behind the
surrogate code points. -/
def range (first last : Char) : CharSet :=
  ⟨[(first.toNat, min last.toNat 0xD7FF), (max first.toNat 0xE000, last.toNat)].filter fun run =>
    decide (run.1 ≤ run.2)⟩

/-- Whether a code point lies in one of several ascending runs. -/
def inRuns (n : Nat) : List (Nat × Nat) → Bool
  | [] => false
  | (first, last) :: rest =>
    if n < first then false else if n ≤ last then true else inRuns n rest

/-- Whether a character belongs to the set. -/
def contains (s : CharSet) (c : Char) : Bool := inRuns c.toNat s.runs

/-- The characters of either set. -/
def union (a b : CharSet) : CharSet :=
  ofAscending (List.merge a.runs b.runs fun a b => decide (a.1 ≤ b.1))

/-- The last code point of all. -/
def lastCode : Nat := 0x10FFFF

/-- The runs between ascending runs, from a code point on. -/
def gaps : Nat → List (Nat × Nat) → List (Nat × Nat)
  | low, [] => if low ≤ lastCode then [(low, lastCode)] else []
  | low, (first, last) :: rest =>
    if low < first then (low, first - 1) :: gaps (last + 1) rest else gaps (last + 1) rest

/-- The code points that are no characters. -/
def surrogates : CharSet := ⟨[(0xD800, 0xDFFF)]⟩

/-- The characters outside the set. -/
def compl (s : CharSet) : CharSet := ⟨gaps 0 (union s surrogates).runs⟩

/-- The set of all characters. -/
def all : CharSet := compl none

/-- The characters of both sets. -/
def inter (a b : CharSet) : CharSet := compl (union (compl a) (compl b))

/-- The characters of the first set outside the second one. -/
def diff (a b : CharSet) : CharSet := inter a (compl b)

/-- The characters of just one of two sets. -/
def symmDiff (a b : CharSet) : CharSet := union (diff a b) (diff b a)

/-- Whether all characters of the set are ASCII characters. -/
def isASCII (s : CharSet) : Bool := s.runs.all fun run => decide (run.2 < 0x80)

/-- The only character of the set, where it has just one. -/
def only? (s : CharSet) : Option Char :=
  match s.runs with
  | [(first, last)] => if first = last then some (Char.ofNat first) else Option.none
  | _ => Option.none

/-- The value of a digit of the sixteen digits up to `F`. -/
def digitValue (c : Char) : Nat :=
  if c.isDigit then c.toNat - '0'.toNat else c.toNat - 'A'.toNat + 10

/-- The number that digits stand for to the base 16. -/
def codeOf (cs : List Char) : Nat := cs.foldl (fun n c => 16 * n + digitValue c) 0

/-- The runs that a word stands for: a code point, two of them with a hyphen between them for a run,
and behind a stroke the step of a run of which only every so many code points are meant. -/
def runsOfWord (word : List Char) : List (Nat × Nat) :=
  match Text.cut? (· == '-') word with
  | Option.none => [(codeOf word, codeOf word)]
  | some (first, rest) =>
    match Text.cut? (· == '/') rest with
    | Option.none => [(codeOf first, codeOf rest)]
    | some (last, step) =>
      (List.range ((codeOf last - codeOf first) / codeOf step + 1)).map fun i =>
        (codeOf first + i * codeOf step, codeOf first + i * codeOf step)

/-- The set that is written as ascending runs of hexadecimal code points with blanks between. -/
def ofText (text : String) : CharSet :=
  ofAscending
    (((Text.fields Char.isWhitespace text.toList).filter (· ≠ [])).flatMap runsOfWord)

end CharSet

end SpatialGrammar
