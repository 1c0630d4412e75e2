import SpatialGrammar.Constraint.Formula
import SpatialGrammar.Constraint.Substitution
import SpatialGrammar.Plane.Region

/-!
# Placements

Where a box lies relative to the box around it, its parent. Inner limits bound the padding: how
far a side is inset from the same side of the parent. Outer limits bound the margin: how far the
box lies beyond a side of the parent. Sides are written as a list, `bottom, left=1+, top: 0..2`,
where a bare side means the limit `0`. A placement can be checked on boxes, turned into a formula,
or turned around into a region of the parents that it allows.
-/

namespace SpatialGrammar

/-- Intervals for some of the sides. -/
structure SideMap where
  right : Option Interval := none
  top : Option Interval := none
  left : Option Interval := none
  bottom : Option Interval := none
  deriving DecidableEq

namespace SideMap

/-- The interval of a side. -/
def get? (m : SideMap) : Side → Option Interval
  | .right => m.right
  | .top => m.top
  | .left => m.left
  | .bottom => m.bottom

/-- The map with an interval for a side, whatever was there. -/
def set (m : SideMap) (s : Side) (r : Interval) : SideMap :=
  match s with
  | .right => { m with right := some r }
  | .top => { m with top := some r }
  | .left => { m with left := some r }
  | .bottom => { m with bottom := some r }

/-- The sides with their intervals, in the standing order of sides. -/
def toList (m : SideMap) : List (Side × Interval) :=
  Side.all.filterMap fun s => (m.get? s).map fun r => (s, r)

/-- The sides that have intervals. -/
def declared (m : SideMap) : SideSet := SideSet.ofTest fun s => (m.get? s).isSome

/-- Whether no side has an interval. -/
def isEmpty (m : SideMap) : Bool := m.toList.isEmpty

/-- The map with one interval set for all sides of a set. -/
def setAll (m : SideMap) (sides : SideSet) (r : Interval) : SideMap :=
  sides.toList.foldl (fun m s => m.set s r) m

/-- The sides and intervals as they are listed in messages. -/
def text (m : SideMap) : String :=
  String.intercalate ", " (m.toList.map fun (s, r) => s.name ++ "=" ++ r.text)

/-- Reads one entry of a list of sides. -/
def readEntry (entry : List Char) : Except ConstraintError (Side × Interval) := do
  let (name, range) ←
    match Text.cut? (fun c => c == '=' || c == ':') entry with
    | some (name, range) => pure (name, ← readRange range)
    | none =>
      match Text.cut? Text.isBlank entry with
      | some (name, range) => pure (name, ← readRange range)
      | none => pure (entry, Interval.exact 0)
  let word := String.ofList (Text.trim name)
  match Side.ofText? word with
  | some s => return (s, range)
  | none => throw (.unknownDirection word)
where
  /-- Reads an interval, trimmed. -/
  readRange (cs : List Char) : Except ConstraintError Interval :=
    (Interval.ofChars (Text.trim cs)).mapError .interval

/-- Reads the entries of a list of sides; a later entry takes the place of an earlier one. -/
def readEntries (m : SideMap) : List (List Char) → Except ConstraintError SideMap
  | [] => .ok m
  | entry :: rest => do
    let (s, r) ← readEntry entry
    readEntries (m.set s r) rest

/-- Reads a list of sides. -/
def ofText (text : String) : Except ConstraintError SideMap :=
  readEntries {} (((Text.fields (· == ',') text.toList).map Text.trim).filter fun e => !e.isEmpty)

end SideMap

/-- Limits for the placement of a component relative to a parent. -/
structure Placement where
  component : Name
  parent : Name
  inner : SideMap
  outer : SideMap
  deriving DecidableEq

namespace Placement

/-- The inner limits with a padding of at least zero for the sides that are left out. -/
def completeInner (inner : SideMap) : SideMap :=
  if inner.isEmpty then inner else inner.setAll inner.declared.complement (Interval.atLeast 0)

/-- The outer limits of a single side with a negative margin for the two sides next to it, which
makes the projections overlap. -/
def completeOuter (outer : SideMap) : SideMap :=
  if outer.declared.size = 1 then outer.setAll outer.declared.orthogonal (Interval.atMost (-1))
  else outer

/-- The placement with given limits, which may be completed by the implicit ones. -/
def ofSides (inner outer : SideMap) (implicitSides : Bool) : Placement :=
  { component := Name.own
    parent := Name.parent
    inner := if implicitSides then completeInner inner else inner
    outer := if implicitSides then completeOuter outer else outer }

/-- Reads a placement from a list of inner and a list of outer sides. -/
def ofTexts (inner outer : Option String) (implicitSides : Bool) :
    Except ConstraintError Placement := do
  let inner ← read inner
  let outer ← read outer
  return ofSides inner outer implicitSides
where
  /-- Reads a list of sides that may be missing. -/
  read : Option String → Except ConstraintError SideMap
    | none => .ok {}
    | some text => SideMap.ofText text

/-- Whether the placement has outer limits only. -/
def isOuter (p : Placement) : Bool := !p.outer.isEmpty && p.inner.isEmpty

/-- The inset of a side of the component from the same side of the parent. -/
def padding (component parent : Box) (s : Side) : Int :=
  (parent.edge s - component.edge s) * s.sign

/-- The distance from a side of the parent outward to the facing side of the component. -/
def margin (component parent : Box) (s : Side) : Int :=
  (component.edge s.opposite - parent.edge s) * s.sign

/-- Whether two boxes are placed within the limits. -/
def admits (p : Placement) (component parent : Box) : Bool :=
  p.inner.toList.all (fun (s, r) => r.contains (padding component parent s))
    && p.outer.toList.all (fun (s, r) => r.contains (margin component parent s))

/-- An interval, negated if a sign is negative. -/
def signed (sign : Int) (r : Interval) : Interval := if sign > 0 then r else -r

/-- Where the parent's side may be for the padding of a side to lie within its limit. -/
def innerEdge (component : Box) (s : Side) (r : Interval) : Interval :=
  (signed s.sign r).shift (component.edge s)

/-- Where the parent's side may be for the margin of a side to lie within its limit. -/
def outerEdge (component : Box) (s : Side) (r : Interval) : Interval :=
  (signed (-s.sign) r).shift (component.edge s.opposite)

/-- What the limits say about the sides of the parent, one by one. -/
def edgeLimits (p : Placement) (component : Box) : List (Side × Interval) :=
  (p.inner.toList.map fun (s, r) => (s, innerEdge component s r))
    ++ p.outer.toList.map fun (s, r) => (s, outerEdge component s r)

/-- Narrows the intervals of sides one after the other, unless nothing is left of one. -/
def narrow? (m : SideMap) : List (Side × Interval) → Option SideMap
  | [] => some m
  | (s, r) :: rest => do
    let narrowed ← ((m.get? s).getD Interval.unbounded).inter? r
    narrow? (m.set s narrowed) rest

/-- The region of the parents that the limits allow for a component, if there are any. -/
def parentRegion? (p : Placement) (component : Box) : Option Region := do
  let m ← narrow? {} (p.edgeLimits component)
  let edge s := (m.get? s).getD Interval.unbounded
  (Region.ofEdges (edge .left) (edge .top) (edge .right) (edge .bottom)).combine? Region.unbounded

/-- The term for an edge of a named box. -/
def edgeTerm (name : Name) (s : Side) : Term := .var (Variable.of name (Attribute.ofSide s))

/-- The difference of two terms, in the order that makes it grow in the direction of a sign. -/
def signedDifference (a b : Term) (sign : Int) : Term := if sign > 0 then .sub a b else .sub b a

/-- The limits as a formula. -/
def toFormula (p : Placement) : Formula :=
  .conj <|
    (p.inner.toList.map fun (s, r) =>
      .within (signedDifference (edgeTerm p.parent s) (edgeTerm p.component s) s.sign) r)
    ++ p.outer.toList.map fun (s, r) =>
      .within (signedDifference (edgeTerm p.component s.opposite) (edgeTerm p.parent s) s.sign) r

/-- The variables of the limits, as often as they occur. -/
def mentions (p : Placement) : List Variable := p.toFormula.mentions

/-- The truth value of the limits. -/
def value? (ρ : Assignment) (p : Placement) : Option Bool := p.toFormula.value? ρ

/-- Replaces variables: each of the two boxes follows its left edge. -/
def substitute (σ : Substitution) (p : Placement) : Placement :=
  { p with component := follow p.component, parent := follow p.parent }
where
  /-- The box that the left edge of a box moves to. -/
  follow (name : Name) : Name :=
    match σ (Variable.of name .left) with
    | some v => v.component
    | none => name

/-- Renames the two boxes. -/
def rename (σ : Renaming) (p : Placement) : Placement :=
  { p with component := σ p.component.canonical, parent := σ p.parent.canonical }

/-- The written form of a placement. -/
def text (p : Placement) : String :=
  "'" ++ p.component ++ "' in '" ++ p.parent ++ "'" ++ group " inner[" p.inner
    ++ group " outer[" p.outer
where
  /-- A bracketed list of limits, left out when there are none. -/
  group (opening : String) (m : SideMap) : String :=
    if m.isEmpty then "" else opening ++ m.text ++ "]"

/-- What the placement is called in messages. -/
def describe (p : Placement) : String := "location constraint " ++ p.text

/-- The truth value of a placement all of whose variables have values. -/
def check (ρ : Assignment) (p : Placement) : Except ConstraintError Bool :=
  strictValue p.describe p.toFormula.variableList ρ (p.value? ρ)

/-- The workings of one padding or margin. -/
def insetWorkings (a b inset : Int) : List Int := [a, b, a - b, inset]

/-- The workings of all paddings and margins of two boxes. -/
def insetsWorkings (component parent : Box) : List Int :=
  Side.all.flatMap fun s =>
    insetWorkings (parent.edge s) (component.edge s) (padding component parent s)
      ++ insetWorkings (component.edge s.opposite) (parent.edge s) (margin component parent s)

/-- The workings of one limit of the parent's edges: the sign, the edge, the sum. -/
def edgeLimitWorkings (sign edge : Int) (r : Interval) : List Int :=
  (if sign > 0 then [] else r.negWorkings) ++ [edge] ++ (signed sign r).shiftWorkings edge

/-- The workings of the limits of the parent's edges, each followed by the side it is about. -/
def edgeLimitsWorkings (p : Placement) (component : Box) : List (Side × Interval × List Int) :=
  (p.inner.toList.map fun (s, r) =>
      (s, innerEdge component s r, edgeLimitWorkings s.sign (component.edge s) r))
    ++ p.outer.toList.map fun (s, r) =>
      (s, outerEdge component s r, edgeLimitWorkings (-s.sign) (component.edge s.opposite) r)

/-- The workings of narrowing, which stops when nothing is left of an interval. -/
def narrowWorkings (m : SideMap) : List (Side × Interval × List Int) → List Int
  | [] => []
  | (s, r, workings) :: rest =>
    workings
      ++ match ((m.get? s).getD Interval.unbounded).inter? r with
        | none => []
        | some narrowed => narrowWorkings (m.set s narrowed) rest

/-- The workings of `p.parentRegion? component`. -/
def parentRegionWorkings (p : Placement) (component : Box) : List Int :=
  narrowWorkings {} (p.edgeLimitsWorkings component)

/-- The workings of `p.value? ρ`. -/
def workings (ρ : Assignment) (p : Placement) : List Int := p.toFormula.workings ρ

end Placement

end SpatialGrammar
