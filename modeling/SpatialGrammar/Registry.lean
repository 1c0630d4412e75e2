import SpatialGrammar.Match
import SpatialGrammar.Plane.Region

/-!
# Registries

All matches that have been found so far, in the order in which they were registered. Two indexes
lead to them: the names under which they are registered, and the corners of their boxes. The view of
a registry is `named`, the matches under a name; `namedIn` restricts it to a region and looks up the
corners when the region is bounded.
-/

namespace SpatialGrammar

/-- The matches that have been found, with indexes by name and by corner. -/
structure Registry (α : Type) where
  found : Array (Match α)
  /-- The positions of the matches under each name, the latest first. -/
  byName : NameMap (List Nat)
  /-- The positions of the matches with each corner, corners in ascending order. -/
  byCorner : List (Point × List Nat)

namespace Registry

variable {α : Type}

/-- The registry without matches. -/
def empty : Registry α := ⟨#[], NameMap.empty, []⟩

instance : Inhabited (Registry α) := ⟨empty⟩

/-- Adds a position under a name. -/
def addName (position : Nat) (index : NameMap (List Nat)) (name : Name) : NameMap (List Nat) :=
  index.insert name (position :: (index.get? name).getD [])

/-- Adds a position under a corner. -/
def addCorner (position : Nat) (corner : Point) : List (Point × List Nat) → List (Point × List Nat)
  | [] => [(corner, [position])]
  | (p, positions) :: rest =>
    if corner = p then (p, position :: positions) :: rest
    else if corner.precedes p then (corner, [position]) :: (p, positions) :: rest
    else (p, positions) :: addCorner position corner rest

/-- Registers a match under its pattern and under further names. -/
def register (r : Registry α) (m : Match α) (also : List Name) : Registry α where
  found := r.found.push m
  byName := (m.pattern :: also).foldl (addName r.found.size) r.byName
  byCorner := addCorner r.found.size m.box.corner r.byCorner

/-- The positions under a name in the order of registration. -/
def positions (r : Registry α) (name : Name) : List Nat := ((r.byName.get? name).getD []).reverse

/-- The matches at some positions. -/
def atPositions (r : Registry α) (positions : List Nat) : List (Match α) :=
  positions.filterMap fun i => r.found[i]?

/-- The matches under a name in the order of registration. -/
def named (r : Registry α) (name : Name) : List (Match α) := r.atPositions (r.positions name)

/-- The positions of the matches whose corners lie in a box, found among the ascending corners. -/
def anchoredIn (r : Registry α) (extent : Box) : List Nat :=
  let fromLeft := r.byCorner.dropWhile fun entry => decide (entry.1.x < extent.left)
  let columns := fromLeft.takeWhile fun entry => decide (entry.1.x < extent.right)
  (columns.filter fun entry =>
    decide (extent.top ≤ entry.1.y) && decide (entry.1.y < extent.bottom)).flatMap (·.2)

/-- The positions under a name whose matches are anchored in what a region may cover, as far as that
is bounded. -/
def nearby (r : Registry α) (name : Name) (region : Region) : List Nat :=
  match region.maximal? with
  | none => r.positions name
  | some extent =>
    let near := r.anchoredIn extent
    (r.positions name).filter near.contains

/-- The matches under a name in the order of registration, within what a region may cover if one is
given. -/
def namedIn (r : Registry α) (name : Name) (region : Option Region) : List (Match α) :=
  match region with
  | none => r.named name
  | some region => (r.atPositions (r.nearby name region)).filter fun m => region.mayContain m.box

/-- The number of matches. -/
def size (r : Registry α) : Nat := r.found.size

/-- Whether there are no matches. -/
def isEmpty (r : Registry α) : Bool := r.found.isEmpty

/-- The workings of looking up a name within a region; there are none if nothing has the name. -/
def namedInWorkings (r : Registry α) (name : Name) (region : Region) : List Int :=
  if r.byName.contains name then
    region.maximalWorkings
      ++ (r.atPositions (r.nearby name region)).flatMap fun m => region.mayContainWorkings m.box
  else []

end Registry

end SpatialGrammar
