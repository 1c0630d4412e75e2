import SpatialGrammar.Order.Distinct
import SpatialGrammar.Plane.Box.Distance
import SpatialGrammar.Plane.Interval

/-!
# Clusters

Items with boxes are collected into clusters: lines of items along an axis that follow each other
with admissible gaps, or areas of items that are connected through such gaps. The items may be
anything that has a box; in areas they are told apart by their numbers.
-/

namespace SpatialGrammar.Recognition.Cluster

variable {ι : Type}

/-- Whether a box follows another one in a direction with an admissible gap. -/
def isAdjacent (gap : Interval) (s : Side) (b c : Box) : Bool :=
  (b.directionalGap? c s).any gap.contains

/-- Whether two boxes are adjacent in some direction. -/
def areNeighbours (gap : Interval) (b c : Box) : Bool :=
  Side.all.any fun s => isAdjacent gap s b c

/-- The order of the rows, then of the columns, in which boxes begin. -/
def rowMajor (b c : Box) : Bool :=
  decide (b.top < c.top) || (decide (b.top = c.top) && decide (b.left ≤ c.left))

/-- The coordinate that the items of a line share. -/
def crossCoordinate (s : Side) (b : Box) : Int := if s.isHorizontal then b.top else b.left

/-- The coordinate by which the items of a line are ordered. -/
def alongCoordinate (s : Side) (b : Box) : Int := if s.isHorizontal then b.left else b.top

/-- The items with a given cross coordinate, ordered along the line. -/
def lineAt (box : ι → Box) (s : Side) (items : List ι) (cross : Int) : List ι :=
  (items.filter fun i => crossCoordinate s (box i) == cross).mergeSort fun i j =>
    decide (alongCoordinate s (box i) ≤ alongCoordinate s (box j))

/-- The lines of items that follow each other with admissible gaps. -/
def lines (box : ι → Box) (gap : Interval) (s : Side) (items : List ι) : List (List ι) :=
  let crosses := Distinct.ofList (fun a b => decide (a < b))
    (items.map fun i => crossCoordinate s (box i))
  crosses.flatMap fun cross =>
    (lineAt box s items cross).splitBy fun i j => isAdjacent gap s (box i) (box j)

/-- Items with numbers that tell them apart. -/
abbrev Numbered (ι : Type) := List (ι × Nat)

/-- The numbered items without some of them. -/
def without (items taken : Numbered ι) : Numbered ι :=
  items.filter fun p => !taken.any fun q => q.2 == p.2

/-- The items of a pool to which an item is related. -/
def reachedFrom (related : ι → ι → Bool) (i : ι) (pool : Numbered ι) : Numbered ι :=
  pool.filter fun p => related i p.1

/-- The items of a pool to which an item is not related. -/
def missedFrom (related : ι → ι → Bool) (i : ι) (pool : Numbered ι) : Numbered ι :=
  pool.filter fun p => !related i p.1

theorem length_reachedFrom_add (related : ι → ι → Bool) (i : ι) (pool : Numbered ι) :
    (reachedFrom related i pool).length + (missedFrom related i pool).length = pool.length := by
  induction pool with
  | nil => rfl
  | cons p rest ih =>
    simp only [reachedFrom, missedFrom, List.filter_cons, List.length_cons] at ih ⊢
    cases related i p.1 <;> simp <;> omega

/-- Follows neighbours breadth-first from the items in a queue through items that have not been
seen: the items that are reached, and those that are not. -/
def spread (related : ι → ι → Bool) (queue unseen : Numbered ι) : Numbered ι × Numbered ι :=
  match queue with
  | [] => ([], unseen)
  | p :: queue =>
    let (reached, left) :=
      spread related (queue ++ reachedFrom related p.1 unseen) (missedFrom related p.1 unseen)
    (p :: reached, left)
termination_by queue.length + unseen.length
decreasing_by
  have := length_reachedFrom_add related p.1 unseen
  simp only [List.length_append, List.length_cons]
  omega

/-- The areas that are begun by the items of a list, as far as they have not been seen. -/
def areasFrom (related : ι → ι → Bool) : Numbered ι → Numbered ι → List (Numbered ι)
  | [], _ => []
  | start :: rest, unseen =>
    if unseen.any fun p => p.2 == start.2 then
      let (area, left) := spread related [start] (without unseen [start])
      area :: areasFrom related rest left
    else areasFrom related rest unseen

/-- The areas of items that are connected, the one that begins first in front, each in breadth-first
order from its beginning. -/
def fill (box : ι → Box) (gap : Interval) (items : List ι) : List (List ι) :=
  let numbered := items.zipIdx
  let order := numbered.mergeSort fun p q => rowMajor (box p.1) (box q.1)
  let related i j := areNeighbours gap (box i) (box j)
  (areasFrom related order numbered).map fun area => area.map (·.1)

/-- Follows neighbours breadth-first as `spread` does, but takes a limited number of items. -/
def grow (related : ι → ι → Bool) : Nat → (queue pool : Numbered ι) → Numbered ι
  | 0, _, _ => []
  | _, [], _ => []
  | room + 1, p :: queue, pool =>
    p :: grow related room (queue ++ reachedFrom related p.1 pool) (missedFrom related p.1 pool)

/-- Splits items into connected pieces. Each piece grows from the first item that is left, up to its
target size; there is a target for each of the first pieces and a common one for all others. -/
def pieces (related : ι → ι → Bool) (targets : List Nat) (common : Nat) (items : Numbered ι) :
    List (Numbered ι) :=
  match items with
  | [] => []
  | start :: rest =>
    let more := grow related (targets.headD common - 1) (reachedFrom related start.1 rest)
      (missedFrom related start.1 rest)
    (start :: more) :: pieces related targets.tail common (without rest more)
termination_by items.length
decreasing_by
  exact Nat.lt_succ_of_le (List.length_filter_le _ _)

/-- The sizes of a number of parts that differ by at most one, larger ones first. -/
def balancedSizes (total parts : Nat) : List Nat :=
  (List.range parts).map fun k => total / parts + if k < total % parts then 1 else 0

/-- Splits items into as few connected pieces of nearly equal size as a greatest size allows. What
does not connect to these forms further pieces. -/
def balancedPieces (box : ι → Box) (gap : Interval) (most : Nat) (items : List ι) : List (List ι) :=
  let parts := (items.length + most - 1) / most
  let order := items.zipIdx.mergeSort fun p q => rowMajor (box p.1) (box q.1)
  let related i j := areNeighbours gap (box i) (box j)
  (pieces related (balancedSizes items.length parts) most order).map fun piece => piece.map (·.1)

end SpatialGrammar.Recognition.Cluster
