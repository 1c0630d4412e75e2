import SpatialGrammar.Number.Fixed
import SpatialGrammar.Number.Score
import SpatialGrammar.Order.Distinct
import SpatialGrammar.Order.NameMap
import SpatialGrammar.Plane.Workings

/-!
# Matches

A match binds a pattern to a box of the grid. Matches form trees: the matches of cells are the
leaves, those of arrays hold items, and those of composite patterns hold the matches that are bound
to their components. The precision of a match is a weighted mean over its tree.
-/

namespace SpatialGrammar

/-- A pattern bound to a box. -/
inductive Match (α : Type) where
  | cell (pattern : Name) (box : Box) (text : String) (cellType : Name) (confidence : α)
  /-- Items in the order of their rows, then of their columns. -/
  | array (pattern : Name) (box : Box) (items : List (Match α))
  /-- The matches bound to components, and the weights of all declared components, both in
  ascending order of the components' names. -/
  | composite (pattern : Name) (box : Box) (bound : List (Name × List (Match α)))
      (weights : List (Name × α))

namespace Match

variable {α : Type}

/-- The pattern that is matched. -/
def pattern : Match α → Name
  | cell pattern _ _ _ _ | array pattern _ _ | composite pattern _ _ _ => pattern

/-- The box of the match. -/
def box : Match α → Box
  | cell _ box _ _ _ | array _ box _ | composite _ box _ _ => box

/-- Whether one box begins on a higher row than another, or on the same row not to its right. -/
def rowMajor (b c : Box) : Bool :=
  decide (b.top < c.top) || (decide (b.top = c.top) && decide (b.left ≤ c.left))

/-- Matches in the order of the rows, then of the columns, in which they begin. -/
def inRowOrder (ms : List (Match α)) : List (Match α) :=
  ms.mergeSort fun m n => rowMajor m.box n.box

/-- The least box around some matches. -/
def hull? (ms : List (Match α)) : Option Box := Box.hull? (ms.map box)

/-- The match of an array with some items. -/
def ofItems (pattern : Name) (items : List (Match α)) : Match α :=
  let sorted := inRowOrder items
  array pattern ((hull? sorted).getD default) sorted

/-- The match of a composite pattern. -/
def ofComponents (pattern : Name) (box : Box) (bound : NameMap (List (Match α)))
    (weights : NameMap α) : Match α :=
  composite pattern box bound.toList weights.toList

/-- The weight under a name, zero if there is none. -/
def weightOf [Score α] (weights : List (Name × α)) (name : Name) : α :=
  ((weights.find? fun entry => entry.1 == name).map (·.2)).getD Score.zero

/-- The precision of a composite match from the weighted scores of its components. -/
def compositePrecision [Score α] (weights : List (Name × α)) (scores : List α) : α :=
  let greatest := Score.sum (weights.map (·.2))
  if Score.le greatest Score.zero then if scores.isEmpty then Score.zero else Score.one
  else Score.div (Score.sum scores) greatest

mutual

/-- How well the pattern is matched: the confidence of a cell, the mean over the items of an array,
the weighted share of what the components reach. -/
def precision [Score α] : Match α → α
  | cell _ _ _ _ confidence => confidence
  | array _ _ items => Score.mean (precisions items)
  | composite _ _ bound weights => compositePrecision weights (scores weights bound)

/-- The precisions of matches. -/
def precisions [Score α] : List (Match α) → List α
  | [] => []
  | m :: rest => m.precision :: precisions rest

/-- The weighted scores of components: the mean precision of what is bound to each. -/
def scores [Score α] (weights : List (Name × α)) : List (Name × List (Match α)) → List α
  | [] => []
  | (name, members) :: rest =>
    Score.mul (weightOf weights name) (Score.mean (precisions members)) :: scores weights rest

end

mutual

/-- The cells of a match in the order in which the tree holds them. -/
def cells : Match α → List (Match α)
  | cell pattern box text cellType confidence => [cell pattern box text cellType confidence]
  | array _ _ items => cellsOf items
  | composite _ _ bound _ => cellsOfBound bound

/-- The cells of matches. -/
def cellsOf : List (Match α) → List (Match α)
  | [] => []
  | m :: rest => m.cells ++ cellsOf rest

/-- The cells of what is bound to components. -/
def cellsOfBound : List (Name × List (Match α)) → List (Match α)
  | [] => []
  | (_, members) :: rest => cellsOf members ++ cellsOfBound rest

end

/-- The cells of a match in the order of the rows, then of the columns, in which they begin. -/
def leaves (m : Match α) : List (Match α) := inRowOrder m.cells

/-- The text of a cell. -/
def cellText? : Match α → Option String
  | cell _ _ text _ _ => some text
  | _ => none

/-- The texts of the leaves. -/
def content (m : Match α) : List String := m.leaves.filterMap cellText?

/-- The texts of the leaves, one after the other. -/
def text (m : Match α) : String := String.join m.content

/-- The grid points that the leaves occupy, by columns, then by rows, each once. -/
def points (m : Match α) : List Point :=
  Distinct.ofList Point.precedes (m.leaves.flatMap fun leaf => leaf.box.points)

/-- The items of an array. -/
def items : Match α → List (Match α)
  | array _ _ items => items
  | _ => []

/-- The matches that are bound to a component. -/
def boundTo (m : Match α) (component : Name) : List (Match α) :=
  match m with
  | composite _ _ bound _ =>
    ((bound.find? fun entry => entry.1 == component).map (·.2)).getD []
  | _ => []

/-- The first match that is bound to a component. -/
def firstBoundTo (m : Match α) (component : Name) : Option (Match α) := (m.boundTo component).head?

/-- The written form of a match. -/
def describe (m : Match Float) : String :=
  m.pattern ++ " " ++ m.box.text ++ " p=" ++ Fixed.text 3 m.precision

/-- The workings of collecting the points of a match. -/
def pointsWorkings (m : Match α) : List Int := m.leaves.flatMap fun leaf => leaf.box.edgeWorkings

/-- The workings of making an array of items. -/
def itemsWorkings (items : List (Match α)) : List Int :=
  Box.hullWorkings ((inRowOrder items).map box)

theorem precisions_eq_map [Score α] (ms : List (Match α)) : precisions ms = ms.map precision := by
  induction ms with
  | nil => rfl
  | cons m rest ih => simp [precisions, ih]

theorem scores_eq_map [Score α] (weights : List (Name × α)) (bound : List (Name × List (Match α))) :
    scores weights bound = bound.map fun entry =>
      Score.mul (weightOf weights entry.1) (Score.mean (entry.2.map precision)) := by
  induction bound with
  | nil => rfl
  | cons entry rest ih => simp [scores, ih, precisions_eq_map]

theorem cellsOf_eq_flatMap (ms : List (Match α)) : cellsOf ms = ms.flatMap cells := by
  induction ms with
  | nil => rfl
  | cons m rest ih => simp [cellsOf, ih]

theorem cellsOfBound_eq_flatMap (bound : List (Name × List (Match α))) :
    cellsOfBound bound = bound.flatMap fun entry => entry.2.flatMap cells := by
  induction bound with
  | nil => rfl
  | cons entry rest ih => simp [cellsOfBound, ih, cellsOf_eq_flatMap]

end Match

end SpatialGrammar
