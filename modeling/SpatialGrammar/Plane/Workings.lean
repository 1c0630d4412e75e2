import SpatialGrammar.Plane.Box.Distance
import SpatialGrammar.Plane.Region

/-!
# Workings of the plane

The integers that calculations with points, boxes and regions pass through, in the order in which
they arise. A test that stops early has no workings for what it does not look at.
-/

namespace SpatialGrammar

namespace Point

/-- The workings of `p.distance q`. -/
def distanceWorkings (p q : Point) : List Int :=
  [p.x - q.x, (p.x - q.x).natAbs, p.y - q.y, (p.y - q.y).natAbs, p.distance q]

/-- The workings of `p + q`. -/
def addWorkings (p q : Point) : List Int := [p.x + q.x, p.y + q.y]

/-- The workings of `p - q`. -/
def subWorkings (p q : Point) : List Int := [p.x - q.x, p.y - q.y]

end Point

namespace Box

/-- The far edges of a box, which are sums. -/
def edgeWorkings (b : Box) : List Int := [b.right, b.bottom]

/-- The workings of `ofEdges`. -/
def ofEdgesWorkings (left top right bottom : Int) : List Int := [right - left, bottom - top]

/-- The workings of `ofCorners`. -/
def ofCornersWorkings (p q : Point) : List Int :=
  ofEdgesWorkings (min p.x q.x) (min p.y q.y) (max p.x q.x) (max p.y q.y)

/-- The workings of `b.containsPoint p`, which looks at the far edges last on each axis. -/
def containsPointWorkings (b : Box) (p : Point) : List Int :=
  if p.x < b.left then []
  else if b.right ≤ p.x ∨ p.y < b.top then [b.right]
  else b.edgeWorkings

/-- The workings of `b.contains c`. -/
def containsWorkings (b c : Box) : List Int :=
  if c.left < b.left then []
  else if b.right < c.right ∨ c.top < b.top then [c.right, b.right]
  else [c.right, b.right, c.bottom, b.bottom]

/-- The workings of `b.translate dx dy`. -/
def translateWorkings (b : Box) (dx dy : Int) : List Int := [b.left + dx, b.top + dy]

/-- The workings of `b.join c`. -/
def joinWorkings (b c : Box) : List Int :=
  b.edgeWorkings ++ c.edgeWorkings
    ++ ofEdgesWorkings (min b.left c.left) (min b.top c.top) (max b.right c.right)
      (max b.bottom c.bottom)

/-- The workings of `hull?`. -/
def hullWorkings : List Box → List Int
  | [] => []
  | b :: bs => go b bs
where
  /-- The workings of joining the boxes of a list to a first one. -/
  go (b : Box) : List Box → List Int
    | [] => []
    | c :: cs => b.joinWorkings c ++ go (b.join c) cs

/-- The workings of the gaps on both axes. -/
def gapWorkings (b c : Box) : List Int :=
  b.edgeWorkings ++ c.edgeWorkings
    ++ [c.left - b.right, b.left - c.right, c.top - b.bottom, b.top - c.bottom]

/-- The workings of `b.distanceToTouch c`. -/
def distanceToTouchWorkings (b c : Box) : List Int := b.gapWorkings c ++ [b.distanceToTouch c]

/-- The workings of `b.axisGap c horizontal`. -/
def axisGapWorkings (b c : Box) (horizontal : Bool) : List Int :=
  if horizontal then [b.right, c.right, c.left - b.right, b.left - c.right]
  else [b.bottom, c.bottom, c.top - b.bottom, b.top - c.bottom]

/-- The workings of `b.directionalGap? c s`, which has no gap between boxes that do not face each
other. -/
def directionalGapWorkings (b c : Box) (s : Side) : List Int :=
  b.axisGapWorkings c (!s.isHorizontal) ++ (b.directionalGap? c s).toList

/-- The workings of `b.distanceToOverlap c` beyond the edges of the boxes. -/
def distanceToOverlapWorkings (b c : Box) : List Int :=
  if b.contains c || c.contains b then []
  else (b.outlineCorners.zip c.outlineCorners).flatMap fun (p, q) => p.distanceWorkings q

/-- The workings of all relations between two boxes together. -/
def relationWorkings (b c : Box) : List Int :=
  b.joinWorkings c ++ b.distanceToTouchWorkings c ++ b.distanceToOverlapWorkings c

/-- The workings of the measures of one box. -/
def measureWorkings (b : Box) : List Int := b.edgeWorkings ++ [(b.area : Int)]

end Box

namespace Region

/-- The workings of `r.minimal?`. -/
def minimalWorkings (r : Region) : List Int :=
  match r.horizontal.minimal?, r.vertical.minimal? with
  | some (left, right), some (top, bottom) => Box.ofEdgesWorkings left top right bottom
  | _, _ => []

/-- The workings of `r.maximal?`. -/
def maximalWorkings (r : Region) : List Int :=
  match r.horizontal.maximal?, r.vertical.maximal? with
  | some (left, right), some (top, bottom) => Box.ofEdgesWorkings left top right bottom
  | _, _ => []

/-- The workings of `r.admits b`. -/
def admitsWorkings (r : Region) (b : Box) : List Int :=
  if r.horizontal.admits b.left b.right then b.edgeWorkings else [b.right]

/-- The workings of `r.mayContain b`, which looks at a far edge only where the region is bounded. -/
def mayContainWorkings (r : Region) (b : Box) : List Int :=
  if r.left.start.all (fun l => decide (l ≤ b.left)) && r.top.start.all (fun t => decide (t ≤ b.top))
  then
    match r.right.stop with
    | none => if r.bottom.stop.isSome then [b.bottom] else []
    | some e =>
      if b.right ≤ e then
        if r.bottom.stop.isSome then b.edgeWorkings else [b.right]
      else [b.right]
  else []

/-- The workings of `r.surelyContains b`. -/
def surelyContainsWorkings (r : Region) (b : Box) : List Int :=
  r.minimalWorkings
    ++ match r.minimal? with
      | none => []
      | some m => m.containsWorkings b

/-- The workings of the tests of a box against a region together. -/
def testWorkings (r : Region) (b : Box) : List Int :=
  r.admitsWorkings b ++ r.mayContainWorkings b ++ r.surelyContainsWorkings b

end Region

end SpatialGrammar
