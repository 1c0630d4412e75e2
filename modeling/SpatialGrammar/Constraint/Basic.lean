import SpatialGrammar.Constraint.Extent
import SpatialGrammar.Constraint.Formula.Reader
import SpatialGrammar.Constraint.Placement

/-!
# Constraints

Formulas, extents, placements and conditions supplied by the user of the library, combined by
logical connectives. A constraint of a component is written in the namespace of the component: its
own box has no name and the box around it is the parent. `boundAs` moves it into the namespace of
that box.
-/

namespace SpatialGrammar

/-- A condition that the user of the library supplies: it is about some named components, and
decides by the values of variables that depend on their names. -/
structure Condition where
  /-- The names of the components that the condition is about. -/
  subjects : List Name
  /-- What the condition is called in messages, given the names. -/
  describe : List Name → String
  /-- The variables that the condition looks at, given the names. -/
  variablesOf : List Name → List Variable
  /-- The verdict on the values of these variables. -/
  decide? : List (Option Int) → Option Bool
  /-- The names after a replacement of variables. -/
  substitute : Substitution → List Name → List Name

namespace Condition

/-- The variables that the condition looks at. -/
def mentions (c : Condition) : List Variable := c.variablesOf c.subjects

/-- The truth value of a condition. -/
def value? (ρ : Assignment) (c : Condition) : Option Bool := c.decide? (c.mentions.map ρ)

/-- Renames the subjects. -/
def rename (σ : Renaming) (c : Condition) : Condition := { c with subjects := c.subjects.map σ }

/-- Replaces variables. -/
def replace (σ : Substitution) (c : Condition) : Condition :=
  { c with subjects := c.substitute σ c.subjects }

end Condition

/-- A constraint on the boxes of a pattern and its components. -/
inductive Constraint where
  | const (b : Bool)
  | formula (a : Formula)
  | extent (e : Extent)
  | placement (p : Placement)
  | conj (items : List Constraint)
  | disj (items : List Constraint)
  | xor (a b : Constraint)
  | not (a : Constraint)
  | condition (c : Condition)

namespace Constraint

mutual

/-- The truth value of a constraint, as far as the values at hand decide it. -/
def value? (ρ : Assignment) : Constraint → Option Bool
  | const b => some b
  | formula a => a.value? ρ
  | extent e => e.value? ρ
  | placement p => p.value? ρ
  | conj items => Kleene.all (values? ρ items)
  | disj items => Kleene.any (values? ρ items)
  | xor a b => Kleene.xor (a.value? ρ) (b.value? ρ)
  | not a => Kleene.not (a.value? ρ)
  | condition c => c.value? ρ

/-- The truth values of constraints. -/
def values? (ρ : Assignment) : List Constraint → List (Option Bool)
  | [] => []
  | a :: rest => a.value? ρ :: values? ρ rest

end

mutual

/-- The integers that the evaluation of a constraint passes through. -/
def workings (ρ : Assignment) : Constraint → List Int
  | const _ => []
  | formula a => a.workings ρ
  | extent _ => []
  | placement p => p.workings ρ
  | conj items => workingsUntil ρ false items
  | disj items => workingsUntil ρ true items
  | xor a b => if (a.value? ρ).isNone then a.workings ρ else a.workings ρ ++ b.workings ρ
  | not a => a.workings ρ
  | condition _ => []

/-- The workings of constraints that are looked at one by one, until one has a given value. -/
def workingsUntil (ρ : Assignment) (stop : Bool) : List Constraint → List Int
  | [] => []
  | a :: rest =>
    if a.value? ρ = some stop then a.workings ρ else a.workings ρ ++ workingsUntil ρ stop rest

end

mutual

/-- The variables of a constraint, as often as they occur. -/
def mentions : Constraint → List Variable
  | const _ => []
  | formula a => a.mentions
  | extent e => e.mentions
  | placement p => p.mentions
  | conj items => mentionsOf items
  | disj items => mentionsOf items
  | xor a b => a.mentions ++ b.mentions
  | not a => a.mentions
  | condition c => c.mentions

/-- The variables of constraints, as often as they occur. -/
def mentionsOf : List Constraint → List Variable
  | [] => []
  | a :: rest => a.mentions ++ mentionsOf rest

end

mutual

/-- Renames the components of a constraint, all at once. -/
def rename (σ : Renaming) : Constraint → Constraint
  | const b => const b
  | formula a => formula (a.mapVariables (Variable.rename σ))
  | extent e => extent (e.rename σ)
  | placement p => placement (p.rename σ)
  | conj items => conj (renameAll σ items)
  | disj items => disj (renameAll σ items)
  | xor a b => xor (a.rename σ) (b.rename σ)
  | not a => not (a.rename σ)
  | condition c => condition (c.rename σ)

/-- Renames the components of constraints. -/
def renameAll (σ : Renaming) : List Constraint → List Constraint
  | [] => []
  | a :: rest => a.rename σ :: renameAll σ rest

end

mutual

/-- Replaces variables of a constraint, all at once. -/
def substitute (σ : Substitution) : Constraint → Constraint
  | const b => const b
  | formula a => formula (a.mapVariables σ.apply)
  | extent e => extent (e.substitute σ)
  | placement p => placement (p.substitute σ)
  | conj items => conj (substituteAll σ items)
  | disj items => disj (substituteAll σ items)
  | xor a b => xor (a.substitute σ) (b.substitute σ)
  | not a => not (a.substitute σ)
  | condition c => condition (c.replace σ)

/-- Replaces variables of constraints. -/
def substituteAll (σ : Substitution) : List Constraint → List Constraint
  | [] => []
  | a :: rest => a.substitute σ :: substituteAll σ rest

end

mutual

/-- The placements that a constraint requires, directly or as members of conjunctions. -/
def placements : Constraint → List Placement
  | placement p => [p]
  | conj items => placementsOf items
  | _ => []

/-- The placements that constraints require. -/
def placementsOf : List Constraint → List Placement
  | [] => []
  | a :: rest => a.placements ++ placementsOf rest

end

mutual

/-- The extents that a constraint requires, directly or as members of conjunctions. -/
def extents : Constraint → List Extent
  | extent e => [e]
  | conj items => extentsOf items
  | _ => []

/-- The extents that constraints require. -/
def extentsOf : List Constraint → List Extent
  | [] => []
  | a :: rest => a.extents ++ extentsOf rest

end

/-- The variables of a constraint in ascending order. -/
def variableList (c : Constraint) : List Variable := Variable.sorted c.mentions

/-- The names of the components that a constraint mentions, in ascending order. -/
def componentNames (c : Constraint) : List Name :=
  Distinct.ofList (fun a b => decide (a < b)) (c.mentions.map (·.component))

/-- What the constraint is called in messages. -/
def describe : Constraint → String
  | const b => "constant " ++ toString b
  | formula a => a.describe
  | extent e => e.describe
  | placement p => p.describe
  | conj _ => "conjunction"
  | disj _ => "disjunction"
  | xor _ _ => "exclusive disjunction"
  | not _ => "negation"
  | condition c => c.describe c.subjects

/-- The conjunction of two constraints; members are added to a conjunction that is there. -/
def and : Constraint → Constraint → Constraint
  | const true, b => b
  | a, const true => a
  | conj items, conj more => conj (items ++ more)
  | conj items, b => conj (items ++ [b])
  | a, b => conj [a, b]

/-- The disjunction of two constraints; a member is added to a disjunction that is there. -/
def or : Constraint → Constraint → Constraint
  | disj items, b => disj (items ++ [b])
  | a, b => disj [a, b]

/-- The conjunction of constraints, true if there are none. -/
def all (items : List Constraint) : Constraint := items.foldl and (const true)

/-- The constraint of a component in the namespace of the box around it. -/
def boundAs (c : Constraint) (component : Name) : Constraint := c.rename (Renaming.binding component)

/-- Reads a formula as a constraint. -/
def ofText (text : String) : Except ConstraintError Constraint := (Formula.ofText text).map formula

/-- The truth value of a constraint all of whose variables have values. -/
def check (ρ : Assignment) (c : Constraint) : Except ConstraintError Bool :=
  strictValue c.describe c.variableList ρ (c.value? ρ)

/-- The truth value of a constraint, provided that its evaluation stays within words. -/
def boundedValue (ρ : Assignment) (c : Constraint) : Except Fault (Option Bool) :=
  Fault.within (c.workings ρ) (c.value? ρ)

/-- The truth value of a constraint all of whose variables have values, provided that its
evaluation stays within words. -/
def boundedCheck (ρ : Assignment) (c : Constraint) : Except Fault Bool := do
  if (c.variableList.find? fun v => (ρ v).isNone).isNone then Fault.guardWords (c.workings ρ)
  (c.check ρ).mapError .constraint

/-- The workings of reading the values of the constraint's variables from boxes. -/
def readingWorkings (boxes : Name → Option Box) (c : Constraint) : List Int :=
  Assignment.ofBoxesWorkings boxes c.mentions

/-- The truth value that boxes give to a constraint. -/
def valueAt (boxes : Name → Option Box) (c : Constraint) : Except Fault (Option Bool) := do
  Fault.guardWords (c.readingWorkings boxes)
  c.boundedValue (Assignment.ofBoxes boxes)

/-- The truth value that boxes give to a constraint whose components all have boxes. -/
def checkAt (boxes : Name → Option Box) (c : Constraint) : Except Fault Bool := do
  Fault.guardWords (c.readingWorkings boxes)
  c.boundedCheck (Assignment.ofBoxes boxes)

theorem values?_eq_map (ρ : Assignment) (items : List Constraint) :
    values? ρ items = items.map (value? ρ) := by
  induction items with
  | nil => rfl
  | cons a rest ih => simp [values?, ih]

theorem mentionsOf_eq_flatMap (items : List Constraint) :
    mentionsOf items = items.flatMap mentions := by
  induction items with
  | nil => rfl
  | cons a rest ih => simp [mentionsOf, ih]

theorem renameAll_eq_map (σ : Renaming) (items : List Constraint) :
    renameAll σ items = items.map (rename σ) := by
  induction items with
  | nil => rfl
  | cons a rest ih => simp [renameAll, ih]

theorem placementsOf_eq_flatMap (items : List Constraint) :
    placementsOf items = items.flatMap placements := by
  induction items with
  | nil => rfl
  | cons a rest ih => simp [placementsOf, ih]

theorem extentsOf_eq_flatMap (items : List Constraint) :
    extentsOf items = items.flatMap extents := by
  induction items with
  | nil => rfl
  | cons a rest ih => simp [extentsOf, ih]

end Constraint

end SpatialGrammar
