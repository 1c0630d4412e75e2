import SpatialGrammar.Recognition.Scene

/-!
# Assemblies

A composite pattern is matched by binding candidates to its components one after the other. An
assembly is what has been bound so far. No two of its members occupy the same grid point: a candidate
is only bound if it is clear of what is there. An assembly becomes a match once it has a box and
satisfies all constraints.
-/

namespace SpatialGrammar.Recognition

variable {α : Type}

/-- A match that can be bound to a component, and the points that it occupies. -/
structure Candidate (α : Type) where
  found : Match α
  points : List Point

namespace Candidate

/-- A match as a candidate. -/
def of (m : Match α) : Candidate α := ⟨m, m.points⟩

/-- Whether a candidate occupies none of some points. -/
def isClearOf (k : Candidate α) (occupied : List Point) : Bool :=
  k.points.all fun p => !occupied.contains p

end Candidate

/-- What is bound to the components of a composite pattern. -/
structure Assembly (α : Type) where
  bound : NameMap (List (Match α))
  /-- The boxes of what is bound. -/
  boxes : BoxTable
  /-- The grid points that are taken. -/
  occupied : List Point

namespace Assembly

/-- The assembly nothing of which is bound. -/
def empty : Assembly α := ⟨NameMap.empty, NameMap.empty, []⟩

/-- The assembly with some members bound to a component. -/
def bind (a : Assembly α) (component : Name) (members : List (Candidate α)) : Assembly α where
  bound := a.bound.insert component (members.map (·.found))
  boxes := a.boxes.insert component (members.map (·.found.box))
  occupied := a.occupied ++ members.flatMap (·.points)

/-- Whether a candidate can be bound to a component as far as can be told. -/
def allows (a : Assembly α) (constraints : List Constraint) (component : Name)
    (k : Candidate α) : Except Fault Bool :=
  if k.isClearOf a.occupied then mayHold constraints (a.boxes.insert component [k.found.box])
  else .ok false

/-- The match that an assembly has become, if it has an acceptable box and satisfies all
constraints. -/
def finish? (a : Assembly α) (p : Pattern α) (constraints : List Constraint)
    (accepts : Box → Bool) : Except Fault (Option (Match α)) := do
  Fault.guardWords (Box.hullWorkings (innerBoxes p.components a.boxes))
  match (innerBox? p.components a.boxes).filter accepts with
  | none => return none
  | some b =>
    let absent := absentNames p.components a.bound
    if ← holds constraints (a.boxes.insert Name.own [b]) absent then
      return some (Match.ofComponents p.name b a.bound (componentWeights p.components))
    else return none

end Assembly

end SpatialGrammar.Recognition
