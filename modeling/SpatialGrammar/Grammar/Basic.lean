import SpatialGrammar.CellType
import SpatialGrammar.Grammar.Dependency
import SpatialGrammar.Grammar.Error
import SpatialGrammar.Pattern

/-!
# Grammars

A grammar is a set of patterns with a root and cell types. `Grammar.build` checks that every
reference resolves and that neither the bases nor the dependencies of patterns run in circles, and
sorts the patterns into waves: the patterns of a wave are made of matches of earlier waves only.
Whoever depends on a pattern also depends on the patterns that extend it, since their matches count
under its name.
-/

namespace SpatialGrammar

/-- Settings of the recognition. -/
structure Options (α : Type) where
  /-- The least confidence with which a cell has to have a type. -/
  precisionThreshold : α
  /-- The share of the best score below which incomplete structures are dropped. -/
  cutoffRatio : α
  /-- How many areas are collected from one starting point. -/
  maxAreaResults : Nat
  /-- The greatest number of matches in an arrangement. -/
  elementLimit : Option Nat
  /-- The greatest number of matches of a pattern. -/
  matchLimit : Option Nat

/-- The settings that hold unless others are given. -/
def Options.standard {α : Type} [Score α] : Options α :=
  { precisionThreshold := Score.zero
    cutoffRatio := Score.share 9 10
    maxAreaResults := 16
    elementLimit := none
    matchLimit := none }

/-- Patterns that fit together. -/
structure Grammar (α : Type) where
  patterns : NameMap (Pattern α)
  root : Name
  cellTypes : CellTypeTable
  options : Options α
  /-- The direct and indirect bases of each pattern, in ascending order. -/
  ancestors : NameMap (List Name)
  /-- The patterns that lead to the root, in the order in which they can be matched. -/
  waves : List (List Name)

namespace Grammar

variable {α : Type}

/-- Collects patterns by name; the error is the first name that comes twice. -/
def collect : List (Pattern α) → NameMap (Pattern α) → Except GrammarError (NameMap (Pattern α))
  | [], patterns => .ok patterns
  | p :: rest, patterns =>
    if patterns.contains p.name then .error (.duplicatePattern p.name)
    else collect rest (patterns.insert p.name p)

/-- Checks the components of a pattern, given the names of earlier ones. -/
def checkComponents [Score α] (pattern : Name) (seen : List Name) :
    List (Component α) → Except GrammarError Unit
  | [] => .ok ()
  | c :: rest =>
    if seen.contains c.name then .error (.defect pattern (.duplicateComponent c.name))
    else if c.count.stop.any fun most => decide (most < 1) then
      .error (.emptyComponentCount pattern c.name c.count)
    else if !Score.isWeight c.weight then
      .error (.defect pattern (.invalidWeight c.name (Score.text c.weight)))
    else checkComponents pattern (c.name :: seen) rest

/-- Checks what the kind of a pattern asks for. -/
def checkKind [Score α] (cellTypes : CellTypeTable) (p : Pattern α) : Except GrammarError Unit :=
  match p.kind with
  | .cell contentType =>
    if cellTypes.contains contentType then .ok ()
    else .error (.undeclaredCellType p.name contentType)
  | .general | .area =>
    if p.components.all (·.isOuter) then .error (.noInnerComponents p.name)
    else checkComponents p.name [] p.components
  | .array shape | .arrayInContext shape =>
    if shape.itemCount.stop.any fun most => decide (most < 1) then
      .error (.defect p.name (.noItems shape.itemCount))
    else .ok ()

/-- Checks that the names on a list are those of patterns. -/
def checkReferences (patterns : NameMap (Pattern α)) (referrer : Name) :
    List Name → Except GrammarError Unit
  | [] => .ok ()
  | name :: rest =>
    if patterns.contains name then checkReferences patterns referrer rest
    else .error (.unknownPattern referrer name)

/-- Checks a pattern by itself and its references to others. -/
def checkPattern [Score α] (patterns : NameMap (Pattern α)) (cellTypes : CellTypeTable)
    (p : Pattern α) : Except GrammarError Unit := do
  checkReferences patterns p.name (p.dependencies ++ p.bases)
  checkKind cellTypes p

/-- The bases of the pattern with a name. -/
def basesOf (patterns : NameMap (Pattern α)) (name : Name) : List Name :=
  ((patterns.get? name).map (·.bases)).getD []

/-- The direct and indirect bases of a pattern, in ascending order. -/
def ancestorsOf (patterns : NameMap (Pattern α)) (name : Name) : List Name :=
  Dependency.closure (basesOf patterns) patterns.names.length
    (Dependency.sorted (basesOf patterns name))

/-- The bases of all patterns, direct and indirect; no pattern may be its own base. -/
def ancestorTable (patterns : NameMap (Pattern α)) : Except GrammarError (NameMap (List Name)) :=
  match patterns.names.find? fun name => (ancestorsOf patterns name).contains name with
  | some name => .error (.cyclicBases name)
  | none => .ok ⟨patterns.names.map fun name => (name, ancestorsOf patterns name)⟩

/-- A name and those of the patterns that extend it. -/
def expand (ancestors : NameMap (List Name)) (name : Name) : List Name :=
  name :: (ancestors.toList.filter fun entry => entry.2.contains name).map (·.1)

/-- What the pattern with a name depends on, extending patterns included, in ascending order. -/
def expandedDependencies (patterns : NameMap (Pattern α)) (ancestors : NameMap (List Name))
    (name : Name) : List Name :=
  Dependency.sorted
    ((((patterns.get? name).map Pattern.dependencies).getD []).flatMap (expand ancestors))

/-- The names of the patterns that lead to the root or to one that extends it. -/
def reachable (patterns : NameMap (Pattern α)) (ancestors : NameMap (List Name)) (root : Name) :
    List Name :=
  Dependency.closure (expandedDependencies patterns ancestors) patterns.names.length
    (Dependency.sorted (expand ancestors root))

/-- The waves of the patterns that lead to the root. -/
def findWaves (patterns : NameMap (Pattern α)) (ancestors : NameMap (List Name)) (root : Name) :
    Except GrammarError (List (List Name)) :=
  (Dependency.layers (expandedDependencies patterns ancestors) []
    (reachable patterns ancestors root)).mapError .cyclicDependencies

/-- The grammar of some patterns, if they fit together. -/
def build [Score α] (root : Name) (patterns : List (Pattern α)) (cellTypes : CellTypeTable) :
    Except GrammarError (Grammar α) := do
  let table ← collect patterns NameMap.empty
  if !table.contains root then throw (.unknownRoot root)
  table.values.forM (checkPattern table cellTypes)
  let ancestors ← ancestorTable table
  let waves ← findWaves table ancestors root
  return { patterns := table, root, cellTypes, options := Options.standard, ancestors, waves }

/-- The grammar with other settings. -/
def withOptions (g : Grammar α) (options : Options α) : Grammar α := { g with options }

/-- The pattern with a name. -/
def pattern? (g : Grammar α) (name : Name) : Option (Pattern α) := g.patterns.get? name

/-- The direct and indirect bases of a pattern. -/
def ancestorNames (g : Grammar α) (name : Name) : List Name := (g.ancestors.get? name).getD []

end Grammar

end SpatialGrammar
