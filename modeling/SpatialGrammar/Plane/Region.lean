import SpatialGrammar.Plane.Box
import SpatialGrammar.Plane.Interval

/-!
# Boxes with uncertain edges

Every edge of a region is an interval of possible coordinates. Its innermost edges bound what it
covers for certain, its outermost edges what it may cover. Combining two regions narrows both
edges, so that the certain part grows and the possible part shrinks.
-/

namespace SpatialGrammar

/-- An extent along one axis, the ends of which are intervals. -/
structure Span where
  start : Interval
  stop : Interval
  deriving DecidableEq, Inhabited

namespace Span

/-- The extent between two known ends. -/
def exact (start stop : Int) : Span := ⟨Interval.exact start, Interval.exact stop⟩

/-- An extent of which nothing is known. -/
def unbounded : Span := ⟨Interval.unbounded, Interval.unbounded⟩

/-- The certain part: from the latest start to the earliest stop. -/
def minimal? (s : Span) : Option (Int × Int) := do
  let start ← s.start.stop
  let stop ← s.stop.start
  if start ≤ stop then some (start, stop) else none

/-- The possible part: from the earliest start to the latest stop. -/
def maximal? (s : Span) : Option (Int × Int) := do
  return (← s.start.start, ← s.stop.stop)

/-- Whether every start lies beyond every stop. -/
def isReversed (s : Span) : Bool :=
  match s.start.start, s.stop.stop with
  | some a, some b => decide (b < a)
  | _, _ => false

/-- What both extents leave possible, if anything. -/
def combine? (s t : Span) : Option Span := do
  let start ← s.start.inter? t.start
  let stop ← s.stop.inter? t.stop
  if isReversed ⟨start, stop⟩ then none else some ⟨start, stop⟩

/-- Whether an extent is one of the possible ones. -/
def admits (s : Span) (start stop : Int) : Bool := s.start.contains start && s.stop.contains stop

end Span

/-- A box with uncertain edges. -/
structure Region where
  horizontal : Span
  vertical : Span
  deriving DecidableEq, Inhabited

namespace Region

/-- The region with four given edges. -/
def ofEdges (left top right bottom : Interval) : Region := ⟨⟨left, right⟩, ⟨top, bottom⟩⟩

/-- A region of which nothing is known. -/
def unbounded : Region := ⟨Span.unbounded, Span.unbounded⟩

/-- The region that is a known box. -/
def ofBox (b : Box) : Region := ⟨Span.exact b.left b.right, Span.exact b.top b.bottom⟩

/-- The interval between two numbers, in either order. -/
def between (a b : Int) : Interval :=
  ⟨some (min a b), some (max a b), by
    rintro c hc d hd
    cases hc
    cases hd
    omega⟩

/-- The region each edge of which lies between those of a certain and of a possible box. -/
def ofExtents (certain possible : Box) : Region :=
  ofEdges (between possible.left certain.left) (between possible.top certain.top)
    (between certain.right possible.right) (between certain.bottom possible.bottom)

def left (r : Region) : Interval := r.horizontal.start
def right (r : Region) : Interval := r.horizontal.stop
def top (r : Region) : Interval := r.vertical.start
def bottom (r : Region) : Interval := r.vertical.stop

/-- What every box of the region covers, if its innermost edges are known and in order. -/
def minimal? (r : Region) : Option Box := do
  let (left, right) ← r.horizontal.minimal?
  let (top, bottom) ← r.vertical.minimal?
  return Box.ofEdges left top right bottom

/-- What some box of the region covers, if its outermost edges are known. -/
def maximal? (r : Region) : Option Box := do
  let (left, right) ← r.horizontal.maximal?
  let (top, bottom) ← r.vertical.maximal?
  return Box.ofEdges left top right bottom

/-- What both regions leave possible, if anything. -/
def combine? (r s : Region) : Option Region := do
  return ⟨← r.horizontal.combine? s.horizontal, ← r.vertical.combine? s.vertical⟩

/-- Whether a box is one of those that the region leaves possible. -/
def admits (r : Region) (b : Box) : Bool :=
  r.horizontal.admits b.left b.right && r.vertical.admits b.top b.bottom

/-- Whether a box lies within the outermost edges, as far as these are known. -/
def mayContain (r : Region) (b : Box) : Bool :=
  r.left.start.all (fun l => decide (l ≤ b.left)) && r.top.start.all (fun t => decide (t ≤ b.top))
    && r.right.stop.all (fun e => decide (b.right ≤ e))
    && r.bottom.stop.all (fun e => decide (b.bottom ≤ e))

/-- Whether a box lies within the certain part. -/
def surelyContains (r : Region) (b : Box) : Bool := r.minimal?.any fun m => m.contains b

/-- Whether a box lies within the outermost edges but not within the certain part. -/
def onlyMayContain (r : Region) (b : Box) : Bool := r.mayContain b && !r.surelyContains b

end Region

end SpatialGrammar
