import SpatialGrammar.Conflict.IndexSet

/-!
# Arrangements

A conflict-free selection that can grow: beside its members it keeps what clashes with them, so
that whether an index can join is a question about two sets. What each index clashes with is given
by a function, the clashes.
-/

namespace SpatialGrammar

/-- What each index of the universe clashes with. -/
abbrev Clashes (n : Nat) := Nat → IndexSet n

/-- A selection of indices, with everything that clashes with some member. -/
structure Arrangement (n : Nat) where
  members : IndexSet n
  incompatible : IndexSet n
  deriving DecidableEq

namespace Arrangement

variable {n : Nat}

/-- The arrangement without members. -/
def empty : Arrangement n := ⟨IndexSet.empty, IndexSet.empty⟩

instance : Inhabited (Arrangement n) := ⟨empty⟩

/-- The number of members. -/
def size (a : Arrangement n) : Nat := a.members.size

/-- Whether an index can join: it is neither there nor incompatible. -/
def canAdd (a : Arrangement n) (i : Nat) : Bool :=
  !a.members.contains i && !a.incompatible.contains i

/-- Adds an index if it can join. -/
def add (clashes : Clashes n) (a : Arrangement n) (i : Nat) : Arrangement n :=
  if a.canAdd i then ⟨a.members.insert i, a.incompatible.union (clashes i)⟩ else a

/-- Tries to add an index, and tells whether it has joined. -/
def tryAdd (clashes : Clashes n) (a : Arrangement n) (i : Nat) : Bool × Arrangement n :=
  (a.canAdd i, a.add clashes i)

/-- Whether a number of members reaches the limit, if there is one. -/
def reaches (limit : Option Nat) (size : Nat) : Bool := limit.any fun most => decide (most ≤ size)

/-- Adds the members of a set that can join, in ascending order, until the limit is reached. -/
def grow (clashes : Clashes n) (limit : Option Nat) (a : Arrangement n) (extra : IndexSet n) :
    Arrangement n :=
  extra.toList.foldl (fun a i => if reaches limit a.size then a else a.add clashes i) a

/-- The order of lists of indices by their first difference. -/
def lexicographic : List Nat → List Nat → Bool
  | [], _ => true
  | _ :: _, [] => false
  | i :: is, j :: js => decide (i < j) || (decide (i = j) && lexicographic is js)

/-- Larger selections come first, those of one size in the order of their members. -/
def inOrder (as : List (Arrangement n)) : List (Arrangement n) :=
  let keyed := as.map fun a => ((a.size, a.members.toList), a)
  let sorted := keyed.mergeSort fun p q =>
    decide (q.1.1 < p.1.1) || (decide (p.1.1 = q.1.1) && lexicographic p.1.2 q.1.2)
  sorted.map (·.2)

/-- Drops what has the members of the arrangement that comes before it, given those of the last one
that has been kept. -/
def dropRepeated (last : Option (IndexSet n)) : List (Arrangement n) → List (Arrangement n)
  | [] => []
  | a :: rest =>
    if last = some a.members then dropRepeated last rest
    else a :: dropRepeated (some a.members) rest

/-- Drops what is contained in an earlier arrangement, given some earlier ones. -/
def dropContained (earlier : List (Arrangement n)) : List (Arrangement n) → List (Arrangement n)
  | [] => []
  | a :: rest =>
    if earlier.any fun b => a.members.isSubset b.members then dropContained earlier rest
    else a :: dropContained (a :: earlier) rest

/-- The arrangements whose members are not contained in another one's, each once, larger ones
first. -/
def retainMaximal (as : List (Arrangement n)) : List (Arrangement n) :=
  dropContained [] (dropRepeated none (inOrder as))

end Arrangement

end SpatialGrammar
