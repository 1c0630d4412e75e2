import SpatialGrammar.Conflict.Graph
import SpatialGrammar.Match

/-!
# Arbitration

Candidates for a pattern may overlap. Of all maximal selections without overlap the one with the
greatest total precision is taken; of several such, one with the most members, and of these the one
that begins first.
-/

namespace SpatialGrammar.Recognition

variable {α : Type}

/-- The row and the column in which a match begins. -/
def beginning (m : Match α) : Int × Int := (m.box.top, m.box.left)

/-- The order of rows, then of columns. -/
def beginsBefore (a b : Int × Int) : Bool :=
  decide (a.1 < b.1) || (decide (a.1 = b.1) && decide (a.2 < b.2))

/-- Whether a list of beginnings precedes another one at the first difference. -/
def precedesAll : List (Int × Int) → List (Int × Int) → Bool
  | _, [] => false
  | [], _ :: _ => true
  | a :: as, b :: bs => beginsBefore a b || (a == b && precedesAll as bs)

/-- What selections of matches are judged by. -/
structure Merit (α : Type) where
  precision : α
  count : Nat
  /-- Where the members begin, in ascending order. -/
  beginnings : List (Int × Int)

namespace Merit

/-- The merit of a selection. -/
def of [Score α] (members : List (α × Int × Int)) : Merit α where
  precision := Score.sum (members.map (·.1))
  count := members.length
  beginnings := (members.map (·.2)).mergeSort fun a b => !beginsBefore b a

/-- Whether one merit is greater than another. -/
def greater [Score α] (a b : Merit α) : Bool :=
  if Score.lt b.precision a.precision then true
  else if Score.le a.precision b.precision && Score.le b.precision a.precision then
    decide (b.count < a.count)
      || (decide (a.count = b.count) && precedesAll a.beginnings b.beginnings)
  else false

end Merit

/-- The best selection of matches that do not overlap, with a limited number of members if a limit is
given. -/
def arbitrate [Score α] (limit : Option Nat) (candidates : List (Match α)) : List (Match α) :=
  if candidates.length ≤ 1 then candidates
  else
    let graph : ConflictGraph candidates.length :=
      ConflictGraph.ofComponents (candidates.map Match.points)
    let measured := (candidates.map fun m => (m.precision, beginning m)).toArray
    let merit (members : List Nat) : Merit α := Merit.of (members.filterMap fun i => measured[i]?)
    let byIndex := candidates.toArray
    (graph.best limit Merit.greater merit).filterMap fun i => byIndex[i]?

end SpatialGrammar.Recognition
