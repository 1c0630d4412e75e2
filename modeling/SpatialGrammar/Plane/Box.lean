import SpatialGrammar.Number.Decimal
import SpatialGrammar.Plane.Side

/-!
# Points and boxes

Points of the grid and boxes of grid points. A box covers the columns from `left` up to but not
including `right`, and the rows from `top` up to but not including `bottom`; its sizes are natural
numbers. Distances between boxes are in `Box.Distance`.
-/

namespace SpatialGrammar

/-- A position of the grid: a column and a row. -/
structure Point where
  x : Int
  y : Int
  deriving DecidableEq, Repr, Inhabited

namespace Point

instance : Add Point := ⟨fun p q => ⟨p.x + q.x, p.y + q.y⟩⟩
instance : Sub Point := ⟨fun p q => ⟨p.x - q.x, p.y - q.y⟩⟩

/-- The number of steps along the axes from one point to another. -/
def distance (p q : Point) : Int := ((p.x - q.x).natAbs : Int) + ((p.y - q.y).natAbs : Int)

/-- Points are ordered by column, then by row. -/
def precedes (p q : Point) : Bool := decide (p.x < q.x) || (decide (p.x = q.x) && decide (p.y < q.y))

/-- The written form of a point. -/
def text (p : Point) : String := "(" ++ Decimal.text p.x ++ ", " ++ Decimal.text p.y ++ ")"

end Point

/-- A box of grid points. -/
structure Box where
  left : Int
  top : Int
  width : Nat
  height : Nat
  deriving DecidableEq, Repr, Inhabited

namespace Box

/-- The box with a corner and two sizes; a negative size counts as zero. -/
def ofSizes (left top width height : Int) : Box := ⟨left, top, width.toNat, height.toNat⟩

/-- The box between four edges; it is empty along an axis whose edges are reversed. -/
def ofEdges (left top right bottom : Int) : Box :=
  ofSizes left top (right - left) (bottom - top)

/-- The box between two corners, whichever they are. -/
def ofCorners (p q : Point) : Box :=
  ofEdges (min p.x q.x) (min p.y q.y) (max p.x q.x) (max p.y q.y)

/-- The box of a single grid point. -/
def unit (x y : Int) : Box := ⟨x, y, 1, 1⟩

/-- The first column to the right of the box. -/
def right (b : Box) : Int := b.left + b.width

/-- The first row below the box. -/
def bottom (b : Box) : Int := b.top + b.height

/-- The coordinate of an edge. -/
def edge (b : Box) : Side → Int
  | .right => b.right
  | .top => b.top
  | .left => b.left
  | .bottom => b.bottom

/-- The number of grid points in the box. -/
def area (b : Box) : Nat := b.width * b.height

/-- Whether the box has no grid points. -/
def isEmpty (b : Box) : Bool := b.width == 0 || b.height == 0

/-- The corner that comes first. -/
def corner (b : Box) : Point := ⟨b.left, b.top⟩

/-- The box moved along both axes. -/
def translate (b : Box) (dx dy : Int) : Box := { b with left := b.left + dx, top := b.top + dy }

/-- The grid points of the box, row by row. -/
def points (b : Box) : List Point :=
  (List.range b.height).flatMap fun (j : Nat) =>
    (List.range b.width).map fun (i : Nat) => ⟨b.left + i, b.top + j⟩

/-- Whether a grid point belongs to the box. -/
def containsPoint (b : Box) (p : Point) : Bool :=
  decide (b.left ≤ p.x) && decide (p.x < b.right) && decide (b.top ≤ p.y) && decide (p.y < b.bottom)

/-- Whether the edges of one box enclose those of another. -/
def contains (b c : Box) : Bool :=
  decide (b.left ≤ c.left) && decide (c.right ≤ b.right) && decide (b.top ≤ c.top)
    && decide (c.bottom ≤ b.bottom)

/-- The common part of two boxes, unless it is empty. -/
def inter? (b c : Box) : Option Box :=
  let left := max b.left c.left
  let right := min b.right c.right
  let top := max b.top c.top
  let bottom := min b.bottom c.bottom
  if left < right ∧ top < bottom then some (ofEdges left top right bottom) else none

/-- The least box around two boxes. -/
def join (b c : Box) : Box :=
  ofEdges (min b.left c.left) (min b.top c.top) (max b.right c.right) (max b.bottom c.bottom)

/-- The least box around the boxes of a list, if there are any. -/
def hull? : List Box → Option Box
  | [] => none
  | b :: bs => some (bs.foldl join b)

/-- The grid points in the corners of a box. -/
def cornerPoints (b : Box) : List Point :=
  [⟨b.left, b.top⟩, ⟨b.right - 1, b.top⟩, ⟨b.left, b.bottom - 1⟩, ⟨b.right - 1, b.bottom - 1⟩]

/-- Whether the columns of one box cover those of another. -/
def spansColumns (b c : Box) : Bool := decide (b.left ≤ c.left) && decide (c.right ≤ b.right)

/-- Whether the rows of one box cover those of another. -/
def spansRows (b c : Box) : Bool := decide (b.top ≤ c.top) && decide (c.bottom ≤ b.bottom)

/-- Whether two boxes overlap: a corner of one lies in the other, or they form a cross. -/
def overlaps (b c : Box) : Bool :=
  if b.isEmpty || c.isEmpty then false
  else
    c.cornerPoints.any b.containsPoint || b.cornerPoints.any c.containsPoint
      || (b.spansColumns c && c.spansRows b) || (c.spansColumns b && b.spansRows c)

/-- Boxes are ordered by left edge, top edge, width and height. -/
def precedes (b c : Box) : Bool :=
  b.corner.precedes c.corner
    || (decide (b.corner = c.corner)
      && (decide (b.width < c.width) || (decide (b.width = c.width) && decide (b.height < c.height))))

/-- The written form of a box. -/
def text (b : Box) : String :=
  "[" ++ Decimal.text b.left ++ "," ++ Decimal.text b.top ++ " " ++ Decimal.text b.width ++ "x"
    ++ Decimal.text b.height ++ "]"

theorem mem_points {b : Box} {p : Point} : p ∈ b.points ↔ b.containsPoint p = true := by
  rcases p with ⟨x, y⟩
  simp only [points, List.mem_flatMap, List.mem_range, List.mem_map, containsPoint,
    Bool.and_eq_true, decide_eq_true_eq, Point.mk.injEq]
  unfold right bottom
  constructor
  · rintro ⟨j, hj, i, hi, rfl, rfl⟩
    omega
  · rintro ⟨⟨⟨hl, hr⟩, ht⟩, hb⟩
    exact ⟨(y - b.top).toNat, by omega, (x - b.left).toNat, by omega, by omega, by omega⟩

end Box

end SpatialGrammar
