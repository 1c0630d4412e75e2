import SpatialGrammar.Recognition.Scene

/-!
# Matches of cell patterns

A cell pattern is matched by every cell whose text has the type of the pattern with enough
confidence.
-/

namespace SpatialGrammar.Recognition

variable {α : Type} [Score α]

/-- The type that a pattern asks for, if a cell has it with enough confidence. -/
def sufficientClass? (threshold : α) (contentType : Name) (c : ClassifiedCell α) :
    Option (Classification α) :=
  (c.classes.find? fun k => k.cellType == contentType).filter fun k =>
    !Score.le k.confidence Score.zero && !Score.lt k.confidence threshold

/-- The match of a cell pattern with a cell, if there is one. -/
def cellMatch? (s : Scene α) (p : Pattern α) (contentType : Name) (region : Option Region)
    (c : ClassifiedCell α) : Except Fault (Option (Match α)) :=
  if !mayLieIn region c.cell.box then .ok none
  else
    match sufficientClass? s.options.precisionThreshold contentType c with
    | none => .ok none
    | some k => do
      if ← holds p.ownConstraints (ownBoxes c.cell.box) [] then
        return some (.cell p.name c.cell.box c.cell.text contentType k.confidence)
      else return none

/-- The matches of a cell pattern in the order of the cells. -/
def cellMatches (s : Scene α) (p : Pattern α) (contentType : Name) (region : Option Region) :
    Except Fault (List (Match α)) := do
  return (← s.cells.mapM (cellMatch? s p contentType region)).filterMap id

end SpatialGrammar.Recognition
