import SpatialGrammar.Recognition.Arrays
import SpatialGrammar.Recognition.Assembly

/-!
# Matches of areas

The components of an area float within ranges relative to it: what is bound to one of them says
where the edges of the area may be. The search binds the components with the fewest candidates first
and always tries the candidates that are nearest to what is bound already. What is known of the area
narrows on the way; an array in context is recognised again within what is left.
-/

namespace SpatialGrammar.Recognition

variable {α : Type}

/-- The regions that placements of a box leave to its parent, out of a region, if anything. -/
def narrowParent? (b : Box) (r : Region) (placements : List Placement) : Option Region :=
  placements.foldlM (fun r p => do r.combine? (← p.parentRegion? b)) r

/-- The workings of `narrowParent?`, which stops when nothing is left. -/
def narrowParentWorkings (b : Box) (r : Region) : List Placement → List Int
  | [] => []
  | p :: rest =>
    p.parentRegionWorkings b
      ++ match (p.parentRegion? b).bind r.combine? with
        | none => []
        | some narrowed => narrowParentWorkings b narrowed rest

/-- A candidate and the areas that can hold it. -/
structure FloatingCandidate (α : Type) extends Candidate α where
  parent : Region

/-- A match as a candidate for a component, unless no area at all can hold it. -/
def floatingCandidate? (c : Component α) (m : Match α) : Option (FloatingCandidate α) :=
  (narrowParent? m.box Region.unbounded c.locations).map fun parent =>
    { Candidate.of m with parent }

/-- The candidates for a component among some matches. -/
def floatingCandidates (c : Component α) (found : List (Match α)) :
    Except Fault (List (FloatingCandidate α)) :=
  Fault.within (found.flatMap fun m => narrowParentWorkings m.box Region.unbounded c.locations)
    (found.filterMap (floatingCandidate? c))

/-- A component and its candidates. -/
structure Slot (α : Type) where
  component : Component α
  /-- The array in context that the component binds, if it binds one. -/
  inContext : Option (Pattern α × ArrayShape)
  candidates : List (FloatingCandidate α)

namespace Slot

/-- The array in context that a component binds. -/
def arrayInContext? (g : Grammar α) (c : Component α) : Option (Pattern α × ArrayShape) := do
  let p ← g.pattern? c.pattern
  match p.kind with
  | .arrayInContext shape => some (p, shape)
  | _ => none

/-- The slot of a component. -/
def ofComponent (s : Scene α) (region : Option Region) (c : Component α) :
    Except Fault (Slot α) := do
  let candidates ← floatingCandidates c (s.registry.namedIn c.pattern region)
  return { component := c, inContext := arrayInContext? s.grammar c, candidates }

/-- Whether one slot is not bound after another one: required components come first, then inner
ones, then those with fewer candidates. -/
def notAfter (a b : Slot α) : Bool :=
  let rank (s : Slot α) : Nat := 2 * s.component.isOptional.toNat + s.component.isOuter.toNat
  decide (rank a < rank b)
    || (decide (rank a = rank b) && decide (a.candidates.length ≤ b.candidates.length))

/-- Whether a slot has to be bound but cannot be. -/
def isHopeless (s : Slot α) : Bool := !s.component.isOptional && s.candidates.isEmpty

end Slot

/-- An area some components of which are bound. -/
structure AreaDraft (α : Type) extends Assembly α where
  /-- What is known of the area. -/
  range : Region
  /-- The least box around what is bound. -/
  extent : Option Box

namespace AreaDraft

/-- The area nothing of which is bound. -/
def empty : AreaDraft α := { Assembly.empty with range := Region.unbounded, extent := none }

/-- The draft with some members bound to a component, which leave a range for the area. -/
def bind (d : AreaDraft α) (component : Name) (members : List (FloatingCandidate α))
    (range : Region) : AreaDraft α :=
  { d.toAssembly.bind component (members.map (·.toCandidate)) with
    range
    extent := Box.hull? (d.extent.toList ++ members.map (·.found.box)) }

/-- The workings of binding some members. -/
def bindWorkings (d : AreaDraft α) (members : List (FloatingCandidate α)) : List Int :=
  Box.hullWorkings (d.extent.toList ++ members.map (·.found.box))

/-- How far a box is from what is bound. -/
def distanceTo (d : AreaDraft α) (b : Box) : Int := (d.extent.map (·.distanceToTouch b)).getD 0

/-- The workings of `d.distanceTo b`. -/
def distanceWorkings (d : AreaDraft α) (b : Box) : List Int :=
  d.extent.toList.flatMap fun e => e.distanceToTouchWorkings b

end AreaDraft

/-- A candidate that can be bound next. -/
structure Offer (α : Type) where
  candidate : FloatingCandidate α
  /-- What is known of the area once the candidate is bound. -/
  range : Region
  /-- How far the candidate is from what is bound already. -/
  distance : Int
  precision : α

namespace Offer

/-- How far from the origin a candidate begins. -/
def remoteness (o : Offer α) : Int := o.candidate.found.box.left + o.candidate.found.box.top

/-- Whether one offer is not worse than another one: nearer candidates come first, then more precise
ones, then those nearer to the origin. -/
def notWorse [Score α] (a b : Offer α) : Bool :=
  decide (a.distance < b.distance)
    || (decide (a.distance = b.distance)
      && (!Score.sortLE a.precision b.precision
        || (Score.sortLE b.precision a.precision && decide (a.remoteness ≤ b.remoteness))))

/-- Whether two offers are told apart by their remoteness only. -/
def isTied [Score α] (a b : Offer α) : Bool :=
  decide (a.distance = b.distance)
    && Score.sortLE a.precision b.precision && Score.sortLE b.precision a.precision

/-- The workings of ordering some offers, given in their order: the remoteness of those that are
tied. -/
def orderWorkings [Score α] : List (Offer α) → List Int
  | a :: b :: rest =>
    (if a.isTied b then [a.remoteness, b.remoteness] else []) ++ orderWorkings (b :: rest)
  | _ => []

/-- The offer that a candidate makes, if it can be bound as far as can be told. -/
def of? [Score α] (constraints : List Constraint) (component : Name) (d : AreaDraft α)
    (k : FloatingCandidate α) : Except Fault (Option (Offer α)) :=
  match d.range.combine? k.parent with
  | none => .ok none
  | some range => do
    if ← d.allows constraints component k.toCandidate then
      Fault.guardWords (d.distanceWorkings k.found.box)
      let distance := d.distanceTo k.found.box
      return some { candidate := k, range, distance, precision := k.found.precision }
    else return none

end Offer

/-- The offers of candidates, the best first. -/
def offers [Score α] (constraints : List Constraint) (component : Name) (d : AreaDraft α)
    (candidates : List (FloatingCandidate α)) : Except Fault (List (Offer α)) := do
  let made ← candidates.mapM (Offer.of? constraints component d)
  let ordered := (made.filterMap id).mergeSort Offer.notWorse
  Fault.within (Offer.orderWorkings ordered) ordered

/-- The offers that are about as near as the first one. Those that touch what is bound also admit
those that are a single step away. -/
def nearest : List (Offer α) → List (Offer α)
  | [] => []
  | o :: rest => (o :: rest).takeWhile fun q => decide (q.distance ≤ max o.distance 1)

/-- Takes candidates that are clear of each other and leave a range for the area, in order, as long
as there is room for more; with the range that is left. -/
def takeFitting (room : Option Nat) (range : Region) (occupied : List Point) :
    List (FloatingCandidate α) → List (FloatingCandidate α) × Region
  | [] => ([], range)
  | k :: rest =>
    if room = some 0 then ([], range)
    else if k.isClearOf occupied then
      match range.combine? k.parent with
      | none => takeFitting room range occupied rest
      | some narrowed =>
        let (taken, left) := takeFitting (room.map (· - 1)) narrowed (occupied ++ k.points) rest
        (k :: taken, left)
    else takeFitting room range occupied rest

/-- The members of a repeated component with the range that they leave, provided that there are
enough of them. -/
def gatherFloating (c : Component α) (range : Region) (candidates : List (FloatingCandidate α)) :
    Option (List (FloatingCandidate α) × Region) :=
  let (taken, left) := takeFitting c.maxCount range [] candidates
  if !taken.isEmpty && c.admitsCount taken.length then some (taken, left) else none

/-- The candidates of a slot for a draft; an array in context is recognised within what is known of
the area, if some part of that is certain. -/
def candidatesFor [Score α] (s : Scene α) (slot : Slot α) (d : AreaDraft α) :
    Except Fault (List (FloatingCandidate α)) :=
  match slot.inContext.filter fun _ => d.range.minimal?.isSome with
  | none => .ok slot.candidates
  | some (p, shape) => do
    Fault.guardWords (d.range.minimalWorkings ++ s.registry.namedInWorkings shape.item d.range)
    floatingCandidates slot.component (← arrayMatches s p shape true (some d.range))

/-- What can be bound to a component next, the best first: all members of a repeated one together,
else one of the nearest candidates; each with the range that is left for the area. -/
def choicesOf (c : Component α) (range : Region) (found : List (Offer α)) :
    List (List (FloatingCandidate α) × Region) :=
  if c.isRepeated then (gatherFloating c range (found.map (·.candidate))).toList
  else (nearest found).map fun o => ([o.candidate], o.range)

/-- The drafts that bind the component of a slot, the nearest candidates first. -/
def bindNearest [Score α] (s : Scene α) (constraints : List Constraint) (slot : Slot α)
    (d : AreaDraft α) : Except Fault (List (AreaDraft α)) := do
  let c := slot.component
  let found ← offers constraints c.name d (← candidatesFor s slot d)
  let next := choicesOf c d.range found
  Fault.within (next.flatMap fun (members, _) => d.bindWorkings members)
    (next.map fun (members, range) => d.bind c.name members range)

/-- Collects what a function gives for the members of a list, one after the other, until there are
as many results as are wanted. The function is told how many are still missing. -/
def collect {β γ ε : Type} (f : Nat → β → Except ε (List γ)) :
    Nat → List β → Except ε (List γ)
  | _, [] => .ok []
  | budget, x :: rest => do
    if budget = 0 then return []
    let found ← f budget x
    return found ++ (← collect f (budget - found.length) rest)

/-- The complete drafts that continue a draft with some slots, as many as are wanted. -/
def complete [Score α] (s : Scene α) (constraints : List Constraint) :
    List (Slot α) → Nat → AreaDraft α → Except Fault (List (AreaDraft α))
  | [], budget, d => .ok (if budget = 0 then [] else [d])
  | slot :: rest, budget, d => do
    if budget = 0 then return []
    match ← bindNearest s constraints slot d with
    | [] => if slot.component.isOptional then complete s constraints rest budget d else return []
    | next => collect (complete s constraints rest) budget next

/-- The complete drafts of an area, as many from each way to bind the first slot as the options
allow. -/
def completeDrafts [Score α] (s : Scene α) (constraints : List Constraint) :
    List (Slot α) → Except Fault (List (AreaDraft α))
  | [] => .ok []
  | first :: rest => do
    let budget := s.options.maxAreaResults
    match ← bindNearest s constraints first AreaDraft.empty with
    | [] =>
      if first.component.isOptional then complete s constraints rest budget AreaDraft.empty
      else return []
    | entries => return (← entries.mapM (complete s constraints rest budget)).flatten

/-- The boxes that a draft binds, by the names of the components. -/
def AreaDraft.outline (d : AreaDraft α) : List (Name × Box) :=
  d.bound.toList.flatMap fun (name, members) => members.map fun m => (name, m.box)

/-- The candidates that the search among some slots finds. -/
def searchArea [Score α] (s : Scene α) (p : Pattern α) (region : Option Region)
    (slots : List (Slot α)) : Except Fault (List (Match α)) := do
  let constraints := compositeConstraints s.grammar p
  let drafts ← completeDrafts s constraints slots
  let distinct := drafts.eraseDupsBy fun d e => d.outline == e.outline
  let finished ← distinct.mapM fun d =>
    d.finish? p constraints fun b => mayLieIn region b && d.range.admits b
  return finished.filterMap id

/-- The slots of an area in the order in which they are bound. -/
def areaSlots (s : Scene α) (p : Pattern α) (region : Option Region) :
    Except Fault (List (Slot α)) := do
  return (← p.components.mapM (Slot.ofComponent s region)).mergeSort Slot.notAfter

/-- The candidates of an area pattern before arbitration. There is nothing to search when a required
component has no candidates. -/
def areaCandidates [Score α] (s : Scene α) (p : Pattern α) (region : Option Region) :
    Except Fault (List (Match α)) := do
  let slots ← areaSlots s p region
  if slots.any Slot.isHopeless then return []
  searchArea s p region slots

/-- The matches of an area pattern. -/
def areaMatches [Score α] (s : Scene α) (p : Pattern α) (region : Option Region) :
    Except Fault (List (Match α)) := do
  return arbitrate s.options.elementLimit (← areaCandidates s p region)

end SpatialGrammar.Recognition
