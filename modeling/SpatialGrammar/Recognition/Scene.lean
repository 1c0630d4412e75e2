import SpatialGrammar.Recognition.Binding
import SpatialGrammar.Registry
import SpatialGrammar.Sheet

/-!
# Scenes

What the recognition of a pattern looks at: the grammar, the options, the classified cells of a
sheet, and the matches that have been registered so far.
-/

namespace SpatialGrammar.Recognition

/-- A cell and the types that its text may have, the likeliest first. -/
structure ClassifiedCell (α : Type) where
  cell : Cell
  classes : List (Classification α)

/-- All that the recognition of a pattern depends on. -/
structure Scene (α : Type) where
  grammar : Grammar α
  options : Options α
  cells : List (ClassifiedCell α)
  registry : Registry α

variable {α : Type}

/-- The cells of a sheet with their types. -/
def classifyCells (classifier : Classifier α) (sheet : Sheet) : List (ClassifiedCell α) :=
  sheet.cells.map fun c => ⟨c, classifier c.text⟩

/-- Whether a box may lie in a region, if one is given. -/
def mayLieIn (region : Option Region) (b : Box) : Bool := region.all fun r => r.mayContain b

end SpatialGrammar.Recognition
