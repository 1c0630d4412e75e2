import SpatialGrammar.Recognition.Run

/-!
# Sessions

A session recognises one grammar on sheet after sheet and keeps the matches of the last successful
run for queries.
-/

namespace SpatialGrammar.Recognition

variable {α : Type}

/-- The classifier of the cell types of a grammar. -/
def classifierOf [Score α] (g : Grammar α) : Except GrammarError (Classifier α) :=
  match CellTypes.ofTable g.cellTypes with
  | .ok types => .ok types.classify
  | .error name => .error (.invalidRegex name)

/-- A grammar with settings and a classifier, and the matches of the last run. -/
structure Session (α : Type) where
  grammar : Grammar α
  options : Options α
  classifier : Classifier α
  registry : Registry α := Registry.empty

namespace Session

/-- The session of a grammar with its own cell types. -/
def start [Score α] (g : Grammar α) (options : Options α) : Except GrammarError (Session α) := do
  return { grammar := g, options, classifier := ← classifierOf g }

/-- Recognises the grammar on a sheet. -/
def run [Score α] (s : Session α) (sheet : Sheet) : Except Fault (Run α) :=
  Recognition.run s.grammar s.options (classifyCells s.classifier sheet)

/-- The session after a run. -/
def after (s : Session α) (r : Run α) : Session α := { s with registry := r.registry }

/-- The matches of a pattern in the last run, within a region if one is given. -/
def query (s : Session α) (pattern : Name) (region : Option Region) : List (Match α) :=
  s.registry.namedIn pattern region

end Session

end SpatialGrammar.Recognition
