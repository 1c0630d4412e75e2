import SpatialGrammar.Recognition.Arbitration
import SpatialGrammar.Recognition.Cluster.Workings
import SpatialGrammar.Recognition.Scene

/-!
# Matches of arrays

The items of an array are collected into clusters. A cluster that fits the limits of the array
becomes a match, one that is too small is dropped. One that is too large is trimmed if the array
stands in a context; else, if that is allowed, it is broken into pieces: slices of a regular raster
if there are limits for the size, connected pieces of nearly equal counts if there are not.
-/

namespace SpatialGrammar.Recognition

variable {α : Type}

/-- Some items of an array. -/
abbrev Items (α : Type) := List (Match α)

/-- How a cluster relates to the limits of its array. -/
inductive Fit where
  | fits
  | tooSmall
  | tooLarge
  deriving DecidableEq, Repr

/-- Whether a size exceeds a limit, if there is one. -/
def exceeds (limit : Option Interval) (size : Nat) : Bool :=
  (limit.bind (·.stop)).any fun most => decide (most < (size : Int))

/-- How a number of items with a hull fits the limits. -/
def fitOf (count : Interval) (size : Option Extent) (n : Nat) (hull : Option Box) : Fit :=
  if count.stop.any fun most => decide (most < (n : Int)) then .tooLarge
  else
    match hull with
    | none => .tooSmall
    | some b =>
      if size.any fun e => exceeds e.width b.width || exceeds e.height b.height then .tooLarge
      else if size.any fun e => !e.admits b then .tooSmall
      else if !count.contains n then .tooSmall
      else .fits

/-- How a cluster fits the limits. -/
def fit (shape : ArrayShape) (size : Option Extent) (items : Items α) : Fit :=
  fitOf shape.itemCount size items.length (Match.hull? items)

/-- The clusters of items in the layout of an array. -/
def clusters (shape : ArrayShape) (items : Items α) : List (Items α) :=
  let rows := Cluster.lines Match.box shape.gap .right items
  let columns := Cluster.lines Match.box shape.gap .bottom items
  match shape.layout with
  | .row => rows
  | .column => columns
  | .fill => Cluster.fill Match.box shape.gap items
  | .auto => if columns.length < rows.length then columns else rows

/-- A list without the last element that passes a test; nothing if there is none. -/
def dropLastSuch? (p : α → Bool) (xs : List α) : Option (List α) :=
  if xs.any p then some (xs.reverse.eraseP p).reverse else none

theorem length_dropLastSuch? {p : α → Bool} {xs ys : List α} (h : dropLastSuch? p xs = some ys) :
    ys.length < xs.length := by
  unfold dropLastSuch? at h
  split at h
  · rename_i hp
    obtain ⟨x, hx, px⟩ := List.any_eq_true.1 hp
    injection h with h
    subst h
    have hx' : x ∈ xs.reverse := List.mem_reverse.2 hx
    have hl := List.length_eraseP_of_mem hx' px
    have := List.length_pos_of_mem hx
    rw [List.length_reverse, hl, List.length_reverse]
    omega
  · exact absurd h (by simp)

/-- Takes out items that are outside of what a region certainly covers, the last one first, for as
long as the cluster is too large. -/
def trimProbable (shape : ArrayShape) (size : Option Extent) (region : Region) (items : Items α) :
    Items α :=
  if fit shape size items = .tooLarge then
    match h : dropLastSuch? (fun m => region.onlyMayContain m.box) items with
    | some fewer =>
      have := length_dropLastSuch? h
      trimProbable shape size region fewer
    | none => items
  else items
termination_by items.length

/-- Takes out the last item for as long as the cluster is too large. -/
def trimEnd (shape : ArrayShape) (size : Option Extent) (items : Items α) : Items α :=
  match items with
  | [] => []
  | m :: rest =>
    if fit shape size (m :: rest) = .tooLarge then trimEnd shape size (m :: rest).dropLast
    else m :: rest
termination_by items.length
decreasing_by simp

/-- Trims a cluster that is too large; nothing if it does not come to fit. -/
def trim? (shape : ArrayShape) (size : Option Extent) (region : Option Region) (items : Items α) :
    Option (Items α) :=
  let probable :=
    match region.filter fun r => r.minimal?.isSome with
    | some r => trimProbable shape size r items
    | none => items
  let trimmed := trimEnd shape size probable
  if fit shape size trimmed = .fits then some trimmed else none

/-- The integers from one to another. -/
def upTo (least most : Int) : List Int :=
  (List.range (most - least + 1).toNat).map fun (k : Nat) => least + k

/-- Whether a raster size comes before another one: squarer ones first, then larger ones, then wider
ones. -/
def rasterLE (a b : Int × Int) : Bool :=
  let skew (s : Int × Int) : Nat := (s.1 - s.2).natAbs
  let area (s : Int × Int) : Int := s.1 * s.2
  decide (skew a < skew b) || (decide (skew a = skew b)
    && (decide (area b < area a) || (decide (area a = area b) && decide (b.1 ≤ a.1))))

/-- The raster sizes that limits allow within a hull, the preferred ones first. -/
def rasterSizes (size : Extent) (hull : Box) : List (Int × Int) :=
  let (leastWidth, leastHeight) := size.leastSizes
  let most (limit : Option Interval) (whole : Nat) : Int :=
    min ((limit.bind (·.stop)).getD whole) whole
  let sizes := (upTo leastWidth (most size.width hull.width)).flatMap fun w =>
    (upTo leastHeight (most size.height hull.height)).map fun h => (w, h)
  sizes.mergeSort rasterLE

/-- The row and the column of the raster field in which a box begins. -/
def rasterField (hull : Box) (size offset : Int × Int) (b : Box) : Int × Int :=
  ((b.top - hull.top - offset.2).fdiv size.2, (b.left - hull.left - offset.1).fdiv size.1)

/-- The numbers of the items in each field of a raster, field by field. -/
def rasterSlices (hull : Box) (size offset : Int × Int) (items : List (Box × Nat)) :
    List (List Nat) :=
  let keyed := items.map fun (b, i) => (rasterField hull size offset b, i)
  let fields := Distinct.ofList
    (fun a b => decide (a.1 < b.1) || (decide (a.1 = b.1) && decide (a.2 < b.2)))
    (keyed.map (·.1))
  fields.map fun field => (keyed.filter fun entry => entry.1 == field).map (·.2)

/-- The items with given numbers. -/
def pick (items : Items α) (numbers : List Nat) : Items α := numbers.filterMap fun i => items[i]?

/-- The slices of all rasters of one size each of whose fields fits, in the order of their numbers,
each once. -/
def fittingSlices (shape : ArrayShape) (limits : Extent) (hull : Box) (items : Items α)
    (size : Int × Int) : List (List Nat) :=
  let numbered := (items.map Match.box).zipIdx
  let offsets := (upTo (-(size.1 - 1)) 0).flatMap fun x => (upTo (-(size.2 - 1)) 0).map fun y => (x, y)
  let slices := offsets.flatMap fun offset =>
    let slices := rasterSlices hull size offset numbered
    if slices.all fun slice => fit shape (some limits) (pick items slice) = .fits then slices else []
  Distinct.ofList Arrangement.lexicographic slices

/-- Whether some slices are better than others: they cover more items, or as many with fewer
slices. -/
def coversBetter (a b : Nat × Nat) : Bool :=
  decide (b.1 < a.1) || (decide (a.1 = b.1) && decide (a.2 < b.2))

/-- The best selection of slices that have no item in common. -/
def bestSlices (limit : Option Nat) (slices : List (List Nat)) : List (List Nat) :=
  let graph : ConflictGraph slices.length := ConflictGraph.ofComponents slices
  let covered (members : List Nat) : List Nat := members.flatMap fun i => (slices[i]?).getD []
  let best := graph.best limit coversBetter fun members => ((covered members).length, members.length)
  best.filterMap fun i => slices[i]?

/-- Breaks a cluster into slices of the first raster size for which there are fitting ones. -/
def rasterPieces (limit : Option Nat) (shape : ArrayShape) (limits : Extent) (items : Items α) :
    List (Items α) :=
  match Match.hull? items with
  | none => []
  | some hull =>
    let found := (rasterSizes limits hull).findSome? fun size =>
      match fittingSlices shape limits hull items size with
      | [] => none
      | slices => some slices
    (bestSlices limit (found.getD [])).map (pick items)

/-- Breaks a cluster into connected pieces of nearly equal counts and keeps those that fit. -/
def countPieces (shape : ArrayShape) (items : Items α) : List (Items α) :=
  match (shape.itemCount.stop.map Int.toNat).filter fun most => decide (0 < most) with
  | none => []
  | some most =>
    (Cluster.balancedPieces Match.box shape.gap most items).filter fun piece =>
      fit shape none piece = .fits

/-- What becomes of a cluster. -/
def accept (s : Scene α) (shape : ArrayShape) (inContext : Bool) (size : Option Extent)
    (region : Option Region) (items : Items α) : List (Items α) :=
  match fit shape size items with
  | .fits => [items]
  | .tooSmall => []
  | .tooLarge =>
    if inContext then (trim? shape size region items).toList
    else if shape.allowBreakdown then
      match size with
      | some limits => rasterPieces s.options.elementLimit shape limits items
      | none => countPieces shape items
    else []

/-- Whether the comparisons that lead to the clusters of items stay within words. -/
def clustersFit (shape : ArrayShape) (items : Items α) : Bool :=
  let rows := Cluster.linesFit Match.box shape.gap .right items
  let columns := Cluster.linesFit Match.box shape.gap .bottom items
  match shape.layout with
  | .row => rows
  | .column => columns
  | .fill => Cluster.fillFits Match.box shape.gap items
  | .auto => rows && columns

/-- The workings of `fit`, which looks at the boxes of the items unless there are too many. -/
def fitWorkings (shape : ArrayShape) (items : Items α) : List Int :=
  if shape.itemCount.stop.any fun most => decide (most < (items.length : Int)) then []
  else Box.hullWorkings (items.map Match.box)

/-- The workings of `trimProbable`. -/
def trimProbableWorkings (shape : ArrayShape) (size : Option Extent) (region : Region)
    (items : Items α) : List Int :=
  fitWorkings shape items ++
    if fit shape size items = .tooLarge then
      match h : dropLastSuch? (fun m => region.onlyMayContain m.box) items with
      | some fewer =>
        have := length_dropLastSuch? h
        trimProbableWorkings shape size region fewer
      | none => []
    else []
termination_by items.length

/-- The workings of `trimEnd`. -/
def trimEndWorkings (shape : ArrayShape) (size : Option Extent) (items : Items α) : List Int :=
  match items with
  | [] => []
  | m :: rest =>
    fitWorkings shape (m :: rest) ++
      if fit shape size (m :: rest) = .tooLarge then
        trimEndWorkings shape size (m :: rest).dropLast
      else []
termination_by items.length
decreasing_by simp

/-- The workings of `trim?`. -/
def trimWorkings (shape : ArrayShape) (size : Option Extent) (region : Option Region)
    (items : Items α) : List Int :=
  match region.filter fun r => r.minimal?.isSome with
  | some r =>
    trimProbableWorkings shape size r items
      ++ trimEndWorkings shape size (trimProbable shape size r items)
  | none => trimEndWorkings shape size items

/-- The workings of ordering raster sizes, if there are several. -/
def rasterOrderWorkings (sizes : List (Int × Int)) : List Int :=
  if sizes.length ≤ 1 then []
  else sizes.flatMap fun (w, h) => [w - h, (w - h).natAbs, w * h]

/-- The greatest distances from the beginning of a raster of some size, over all its offsets, at
which items begin. -/
def rasterFieldWorkings (hull : Box) (items : Items α) (size : Int × Int) : List Int :=
  items.flatMap fun m => [m.box.left - hull.left + size.1 - 1, m.box.top - hull.top + size.2 - 1]

/-- The workings of `rasterPieces`, which tries raster sizes up to one that gives slices. -/
def rasterWorkings (shape : ArrayShape) (limits : Extent) (items : Items α) : List Int :=
  match Match.hull? items with
  | none => []
  | some hull =>
    let sizes := rasterSizes limits hull
    let (safe, rest) := sizes.span fun size => Word.holdsAll (rasterFieldWorkings hull items size)
    let reached := rest.head?.filter fun _ =>
      safe.all fun size => (fittingSlices shape limits hull items size).isEmpty
    Box.hullWorkings (items.map Match.box) ++ rasterOrderWorkings sizes
      ++ reached.toList.flatMap (rasterFieldWorkings hull items)

/-- Whether the comparisons of `countPieces` stay within words. -/
def countFits (shape : ArrayShape) (items : Items α) : Bool :=
  match (shape.itemCount.stop.map Int.toNat).filter fun most => decide (0 < most) with
  | none => true
  | some most =>
    Cluster.balancedFits Match.box shape.gap most items
      && (Cluster.balancedPieces Match.box shape.gap most items).all fun piece =>
        Word.holdsAll (fitWorkings shape piece)

/-- Whether the calculations of `accept` stay within words. -/
def acceptFits (shape : ArrayShape) (inContext : Bool) (size : Option Extent)
    (region : Option Region) (items : Items α) : Bool :=
  Word.holdsAll (fitWorkings shape items) &&
    if fit shape size items = .tooLarge then
      if inContext then Word.holdsAll (trimWorkings shape size region items)
      else if shape.allowBreakdown then
        match size with
        | some limits => Word.holdsAll (rasterWorkings shape limits items)
        | none => countFits shape items
      else true
    else true

/-- The match of an array with some items, if its own constraints hold. -/
def arrayMatch? (p : Pattern α) (items : Items α) : Except Fault (Option (Match α)) := do
  let m := Match.ofItems p.name items
  if ← holds p.ownConstraints (ownBoxes m.box) [] then return some m else return none

/-- The candidates of an array pattern before arbitration. -/
def arrayCandidates (s : Scene α) (p : Pattern α) (shape : ArrayShape) (inContext : Bool)
    (region : Option Region) : Except Fault (List (Match α)) := do
  let items := s.registry.namedIn shape.item region
  Fault.require (clustersFit shape items)
  let found := clusters shape items
  Fault.require (found.all (acceptFits shape inContext p.size? region))
  let accepted := found.flatMap (accept s shape inContext p.size? region)
  return (← accepted.mapM (arrayMatch? p)).filterMap id

/-- The matches of an array pattern. -/
def arrayMatches [Score α] (s : Scene α) (p : Pattern α) (shape : ArrayShape) (inContext : Bool)
    (region : Option Region) : Except Fault (List (Match α)) := do
  return arbitrate s.options.elementLimit (← arrayCandidates s p shape inContext region)

end SpatialGrammar.Recognition
