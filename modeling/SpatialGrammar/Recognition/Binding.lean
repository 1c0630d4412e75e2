import SpatialGrammar.Grammar.Basic
import SpatialGrammar.Match

/-!
# Constraints on bound components

A composite pattern is matched by binding matches to its components, several to a repeated one. A
constraint has to hold for every choice of one member per component that it mentions. While a match
is being assembled only what is certainly violated counts (`mayHold`); the finished match is checked
strictly (`holds`).
-/

namespace SpatialGrammar.Recognition

variable {α : Type}

/-- The boxes of the matches that are bound to components. -/
abbrev BoxTable := NameMap (List Box)

/-- One box for each of some components. -/
abbrev Choice := List (Name × Box)

/-- The box that is chosen for a component. -/
def Choice.box? (choice : Choice) (name : Name) : Option Box :=
  (choice.find? fun entry => entry.1 == name).map (·.2)

/-- The choices extended by each of some boxes for a component. -/
def extendChoices (choices : List Choice) (name : Name) (boxes : List Box) : List Choice :=
  choices.flatMap fun choice => boxes.map fun b => (name, b) :: choice

/-- The choices of one box for each of some components, as far as boxes are bound to them. -/
def choicesFor (boxes : BoxTable) (names : List Name) : List Choice :=
  names.foldl
    (fun choices name =>
      match boxes.get? name with
      | none | some [] => choices
      | some bs => extendChoices choices name bs)
    [[]]

/-- The choices for the components that a constraint mentions. -/
def choices (c : Constraint) (boxes : BoxTable) : List Choice := choicesFor boxes c.componentNames

/-- Whether no choice certainly violates a constraint. -/
def mayHoldOne (boxes : BoxTable) (c : Constraint) : Except Fault Bool :=
  (choices c boxes).allM fun choice => do return (← c.valueAt choice.box?) != some false

/-- Whether no choice certainly violates any of some constraints. -/
def mayHold (constraints : List Constraint) (boxes : BoxTable) : Except Fault Bool :=
  constraints.allM (mayHoldOne boxes)

/-- Whether a constraint does not apply: it mentions the parent or an absent component. -/
def isVacuous (absent : List Name) (c : Constraint) : Bool :=
  c.mentions.any fun v => absent.contains v.component || v.component == Name.parent

/-- Whether every choice satisfies a constraint. -/
def holdsOne (boxes : BoxTable) (c : Constraint) : Except Fault Bool :=
  (choices c boxes).allM fun choice => c.checkAt choice.box?

/-- Whether every choice satisfies each of some constraints. Constraints that mention the parent or
an absent component do not count; any other component without boxes is an error. -/
def holds (constraints : List Constraint) (boxes : BoxTable) (absent : List Name) :
    Except Fault Bool :=
  constraints.allM fun c => if isVacuous absent c then .ok true else holdsOne boxes c

/-- The box of a match by itself, seen from its own constraints. -/
def ownBoxes (b : Box) : BoxTable := NameMap.empty.insert Name.own [b]

/-- The constraints of a component, seen from the pattern that owns it: its own ones, and those of
its pattern that are about the parent. -/
def componentConstraints (g : Grammar α) (c : Component α) : List Constraint :=
  let inherited := ((g.pattern? c.pattern).map Pattern.contextConstraints).getD []
  (c.constraints ++ inherited).map fun constraint => constraint.boundAs c.name

/-- All constraints that a match of a composite pattern has to satisfy, seen from the pattern. -/
def compositeConstraints (g : Grammar α) (p : Pattern α) : List Constraint :=
  p.ownConstraints ++ p.components.flatMap (componentConstraints g)

/-- The weights of all components. -/
def componentWeights (components : List (Component α)) : NameMap α :=
  NameMap.ofList (components.map fun c => (c.name, c.weight))

/-- The boxes that are bound to inner components. -/
def innerBoxes (components : List (Component α)) (boxes : BoxTable) : List Box :=
  (components.filter fun c => !c.isOuter).flatMap fun c => (boxes.get? c.name).getD []

/-- The box that a composite match has: the least one around what is bound to inner components. -/
def innerBox? (components : List (Component α)) (boxes : BoxTable) : Option Box :=
  Box.hull? (innerBoxes components boxes)

/-- The components to which nothing is bound. -/
def absentNames (components : List (Component α)) (bound : NameMap (List (Match α))) : List Name :=
  (components.filter fun c => !bound.contains c.name).map (·.name)

end SpatialGrammar.Recognition
