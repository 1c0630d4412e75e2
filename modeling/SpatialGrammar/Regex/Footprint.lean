import SpatialGrammar.Regex.Basic
import SpatialGrammar.Text.Encoding

/-!
# How much room an expression takes

The size of the automata on bytes that an expression stands for, one that reads texts forward and
one that reads them backward. Repetitions count once for each round, so that a short expression can
be too large. Expressions beyond a limit are refused.
-/

namespace SpatialGrammar.Regex

open Text

/-- The room of a state. -/
def stateSize : Nat := 32

/-- The room of a step on a run of bytes where a state has several. -/
def stepSize : Nat := 8

/-- The room of an alternative of a state without steps. -/
def alternativeSize : Nat := 4

/-- Sequences by their first run of bytes, with what follows it; equal ones stand together. -/
def byFirstRun (sequences : List (List ByteRun)) : List (ByteRun × List (List ByteRun)) :=
  (sequences.splitBy fun a b => a.head? == b.head?).filterMap fun group =>
    match group with
    | (run :: rest) :: more => some (run, rest :: more.map (·.drop 1))
    | _ => none

/-- The states of an automaton without their names: the steps of each, which lead to other states by
their numbers. The end has the number zero. -/
abbrev StateTable := List (List (ByteRun × Nat))

/-- The number of a state with given steps, which is added to the table if it is new. -/
def StateTable.add (table : StateTable) (steps : List (ByteRun × Nat)) : Nat × StateTable :=
  match table.idxOf? steps with
  | some i => (table.length - i, table)
  | none => (table.length + 1, steps :: table)

/-- Adds the states for sequences of at most a number of runs; equal states are shared. -/
def addStates : Nat → List (List ByteRun) → StateTable → Nat × StateTable
  | 0, _, table => (0, table)
  | length + 1, sequences, table =>
    match byFirstRun sequences with
    | [] => (0, table)
    | groups =>
      let (steps, table) := groups.foldl
        (fun (steps, table) (run, rest) =>
          let (target, table) := addStates length rest table
          ((run, target) :: steps, table))
        (([], table) : List (ByteRun × Nat) × StateTable)
      table.add steps.reverse

/-- The sum of some sizes. -/
def total (sizes : List Nat) : Nat := sizes.foldr (· + ·) 0

/-- The number of different beginnings of sequences of at most a number of runs. -/
def beginnings : Nat → List (List ByteRun) → Nat
  | 0, _ => 0
  | length + 1, sequences =>
    total ((byFirstRun sequences).map fun (_, rest) => 1 + beginnings length rest)

/-- The room for a set of characters. Forward, equal states are shared; backward, the sequences of
bytes share their beginnings. -/
def setSize (backward : Bool) (set : CharSet) : Nat :=
  if set.isASCII then 2 * stateSize + stepSize * set.runs.length
  else
    let sequences := set.runs.flatMap encodedRun
    if backward then
      (2 + beginnings 4 sequences) * stateSize + alternativeSize * sequences.length
    else
      let sizes := (addStates 4 sequences []).2.map fun steps => stateSize + stepSize * steps.length
      stateSize + total sizes

/-- Pieces of a list of texts: what stands between texts without bytes. -/
def piecesBetweenEnds : List (List Nat) → List (List (List Nat))
  | [] => [[]]
  | [] :: rest => [] :: piecesBetweenEnds rest
  | bytes :: rest =>
    match piecesBetweenEnds rest with
    | [] => [[bytes]]
    | piece :: pieces => (bytes :: piece) :: pieces

/-- The groups of texts with the same first byte, each without that byte. -/
def byFirstByte (texts : List (List Nat)) : List (List (List Nat)) :=
  (texts.filterMap List.head?).eraseDups.map fun byte =>
    (texts.filter fun bytes => bytes.head? == some byte).map (·.drop 1)

/-- The room of the states that lead through several texts, of at most a length, at once. Where one
of them ends, the steps of those behind it in the order of preference make a further state. -/
def textsSize : Nat → List (List Nat) → Nat
  | 0, _ => 0
  | length + 1, texts =>
    if texts.all List.isEmpty then 0
    else
      let pieces := piecesBetweenEnds texts
      let ends := (pieces.takeWhile List.isEmpty).length
      let pieces := pieces.drop (ends - 1)
      let groups := (pieces.filter (· ≠ [])).map byFirstByte
      let steps := groups.map fun group =>
        if group.length = 1 then stateSize else stateSize + stepSize * group.length
      total steps + stateSize + alternativeSize * (groups.length + pieces.length - 1)
        + total (groups.map fun group => total (group.map (textsSize length)))

/-- The characters of an expression that is a text. -/
def text? : Regex → Option (List Char)
  | text cs => some cs
  | _ => none

/-- The room for a choice between texts, where all alternatives are texts. -/
def textChoiceSize? (backward : Bool) (alternatives : List Regex) : Option Nat :=
  (alternatives.mapM text?).map fun texts =>
    let bytes := texts.map fun cs =>
      if backward then (encodedBytes cs).reverse else encodedBytes cs
    stateSize + textsSize ((bytes.map List.length).foldl max 0 + 1) bytes

/-- The room for a number of rounds of given room. -/
def roundsSize (size : Nat) (rounds : Nat) : Nat :=
  if rounds = 0 then stateSize else rounds * size

/-- The room for a repetition whose rounds have a given room; `advances` says that each round takes
a character. -/
def repetitionSize (size : Nat) (advances : Bool) (least : Nat) (most : Option Nat) : Nat :=
  let fork := stateSize + 2 * alternativeSize
  match least, most with
  | 0, some 1 => size + fork + stateSize
  | 0, none => if advances then size + fork else size + 2 * fork + stateSize
  | least, none => roundsSize size least + fork
  | least, some most =>
    if least = most then roundsSize size least
    else roundsSize size least + stateSize + (most - least) * (size + fork)

/-- The room for an expression. The second argument says that it is an alternative of a choice that
is counted already. -/
def sizeFrom (backward : Bool) : Bool → Regex → Nat
  | _, empty => stateSize
  | _, text cs => stateSize * (encodedBytes cs).length
  | _, one set => setSize backward set
  | _, assert _ => stateSize
  | _, group _ a => (if backward then 0 else 2 * stateSize) + sizeFrom backward false a
  | _, cat a b => sizeFrom backward false a + sizeFrom backward false b
  | inChoice, alt a b =>
    match if inChoice then none else textChoiceSize? backward (branches (alt a b)) with
    | some size => size
    | none =>
      (if inChoice then 0 else 2 * stateSize + alternativeSize) + alternativeSize
        + sizeFrom backward false a + sizeFrom backward true b
  | _, times a least most _ =>
    repetitionSize (sizeFrom backward false a) (a.shortest?.any fun n => decide (0 < n)) least most

/-- The room for the search of an expression from any place of a text: what skips the characters in
front, the ends of the whole match and its acceptance. -/
def totalSize (backward : Bool) (a : Regex) : Nat :=
  let skipping := 3 * stateSize + stepSize + 2 * alternativeSize
  let ends := if backward then 0 else 2 * stateSize
  skipping + ends + sizeFrom backward false a + stateSize

/-- The room that an expression may take: ten mebibytes. -/
def sizeLimit : Nat := 10485760

/-- Whether an expression is small enough to be searched for in either direction. -/
def isSmallEnough (a : Regex) : Bool :=
  decide (a.totalSize false ≤ sizeLimit) && decide (a.totalSize true ≤ sizeLimit)

end SpatialGrammar.Regex
