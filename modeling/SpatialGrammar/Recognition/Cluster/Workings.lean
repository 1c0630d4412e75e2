import SpatialGrammar.Plane.Workings
import SpatialGrammar.Recognition.Cluster

/-!
# Workings of clusters

Which items are compared while clusters are formed, and whether these comparisons stay within words.
Items that have been reached are not compared again, so a walk through far-off items may do with
comparisons between near ones.
-/

namespace SpatialGrammar.Recognition.Cluster

variable {ι : Type}

/-- The workings of `isAdjacent` on several sides, up to one on which the boxes are adjacent. -/
def adjacencyWorkings (gap : Interval) (b c : Box) : List Side → List Int
  | [] => []
  | s :: rest =>
    b.directionalGapWorkings c s
      ++ if isAdjacent gap s b c then [] else adjacencyWorkings gap b c rest

/-- Whether the comparison of two boxes in all directions stays within words. -/
def comparisonFits (gap : Interval) (b c : Box) : Bool :=
  Word.holdsAll (adjacencyWorkings gap b c Side.all)

/-- Whether a relation holds between each element of a list and the next one. -/
def eachNext (fits : ι → ι → Bool) : List ι → Bool
  | i :: j :: rest => fits i j && eachNext fits (j :: rest)
  | _ => true

/-- Whether the comparisons of `lines` stay within words: those of neighbours on a line. -/
def linesFit (box : ι → Box) (gap : Interval) (s : Side) (items : List ι) : Bool :=
  let crosses := Distinct.ofList (fun a b => decide (a < b))
    (items.map fun i => crossCoordinate s (box i))
  crosses.all fun cross =>
    eachNext (fun i j => Word.holdsAll (adjacencyWorkings gap (box i) (box j) [s]))
      (lineAt box s items cross)

/-- Whether an item may be compared with all items of a pool. -/
def fitsAll (fits : ι → ι → Bool) (i : ι) (pool : Numbered ι) : Bool := pool.all fun p => fits i p.1

/-- Whether all comparisons of `spread` are allowed. -/
def spreadFits (related fits : ι → ι → Bool) (queue unseen : Numbered ι) : Bool :=
  match queue with
  | [] => true
  | p :: queue =>
    fitsAll fits p.1 unseen
      && spreadFits related fits (queue ++ reachedFrom related p.1 unseen)
        (missedFrom related p.1 unseen)
termination_by queue.length + unseen.length
decreasing_by
  have := length_reachedFrom_add related p.1 unseen
  simp only [List.length_append, List.length_cons]
  omega

/-- Whether all comparisons of `areasFrom` are allowed. -/
def areasFit (related fits : ι → ι → Bool) : Numbered ι → Numbered ι → Bool
  | [], _ => true
  | start :: rest, unseen =>
    if unseen.any fun p => p.2 == start.2 then
      let pool := without unseen [start]
      spreadFits related fits [start] pool
        && areasFit related fits rest (spread related [start] pool).2
    else areasFit related fits rest unseen

/-- Whether the comparisons of `fill` stay within words. -/
def fillFits (box : ι → Box) (gap : Interval) (items : List ι) : Bool :=
  let numbered := items.zipIdx
  let order := numbered.mergeSort fun p q => rowMajor (box p.1) (box q.1)
  areasFit (fun i j => areNeighbours gap (box i) (box j))
    (fun i j => comparisonFits gap (box i) (box j)) order numbered

/-- Whether all comparisons of `grow` are allowed. -/
def growFits (related fits : ι → ι → Bool) : Nat → (queue pool : Numbered ι) → Bool
  | 0, _, _ => true
  | _, [], _ => true
  | room + 1, p :: queue, pool =>
    fitsAll fits p.1 pool
      && growFits related fits room (queue ++ reachedFrom related p.1 pool)
        (missedFrom related p.1 pool)

/-- Whether all comparisons of `pieces` are allowed. -/
def piecesFit (related fits : ι → ι → Bool) (targets : List Nat) (common : Nat)
    (items : Numbered ι) : Bool :=
  match items with
  | [] => true
  | start :: rest =>
    let room := targets.headD common - 1
    let reached := reachedFrom related start.1 rest
    let missed := missedFrom related start.1 rest
    fitsAll fits start.1 rest && growFits related fits room reached missed
      && piecesFit related fits targets.tail common
        (without rest (grow related room reached missed))
termination_by items.length
decreasing_by
  exact Nat.lt_succ_of_le (List.length_filter_le _ _)

/-- Whether the comparisons of `balancedPieces` stay within words. -/
def balancedFits (box : ι → Box) (gap : Interval) (most : Nat) (items : List ι) : Bool :=
  let parts := (items.length + most - 1) / most
  let order := items.zipIdx.mergeSort fun p q => rowMajor (box p.1) (box q.1)
  piecesFit (fun i j => areNeighbours gap (box i) (box j))
    (fun i j => comparisonFits gap (box i) (box j)) (balancedSizes items.length parts) most order

end SpatialGrammar.Recognition.Cluster
