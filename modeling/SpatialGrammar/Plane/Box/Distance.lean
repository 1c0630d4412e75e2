import SpatialGrammar.Plane.Box

/-!
# Distances between boxes

How far apart two boxes lie along an axis, how far one has to move to touch or to overlap the
other, and the gap between boxes that face each other.
-/

namespace SpatialGrammar.Box

/-- The gap between the projections of two boxes on the axis of the rows or of the columns;
negative when the projections overlap. -/
def axisGap (b c : Box) (horizontal : Bool) : Int :=
  if horizontal then max (c.left - b.right) (b.left - c.right)
  else max (c.top - b.bottom) (b.top - c.bottom)

/-- The number of steps that separate two boxes; zero when they touch or overlap. -/
def distanceToTouch (b c : Box) : Int :=
  max (b.axisGap c true) 0 + max (b.axisGap c false) 0

/-- The corners of the outline of a box. -/
def outlineCorners (b : Box) : List Point :=
  [⟨b.left, b.top⟩, ⟨b.right, b.top⟩, ⟨b.left, b.bottom⟩, ⟨b.right, b.bottom⟩]

/-- The distances between corresponding corners of two boxes. -/
def cornerDistances (b c : Box) : List Int :=
  (b.outlineCorners.zip c.outlineCorners).map fun (p, q) => p.distance q

/-- An estimate of how far two boxes are from overlapping: zero when one contains the other, else
the least distance between corresponding corners. -/
def distanceToOverlap (b c : Box) : Int :=
  if b.contains c || c.contains b then 0 else (b.cornerDistances c).min?.getD 0

/-- The gap that is left when moving from a box toward another in a direction, provided that their
projections on the other axis overlap. -/
def directionalGap? (b c : Box) (s : Side) : Option Int :=
  if b.axisGap c (!s.isHorizontal) ≥ 0 then none
  else
    match s with
    | .right => some (c.left - b.right)
    | .left => some (b.left - c.right)
    | .bottom => some (c.top - b.bottom)
    | .top => some (b.top - c.bottom)

end SpatialGrammar.Box
