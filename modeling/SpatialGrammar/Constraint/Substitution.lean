import SpatialGrammar.Constraint.Variable

/-!
# Substitutions

Simultaneous replacement of component names or of single variables in a constraint.
-/

namespace SpatialGrammar

/-- New names for components; a name that is not renamed is its own image. -/
abbrev Renaming := Name → Name

/-- The renaming of a list of pairs; of two pairs with one source the later counts. -/
def Renaming.ofList (pairs : List (Name × Name)) : Renaming :=
  fun name => ((pairs.reverse.find? fun pair => pair.1 == name).map (·.2)).getD name

/-- The renaming that binds the constraint of a component into the namespace of the box around
it: the box itself gets the component's name, and the parent becomes the box itself. -/
def Renaming.binding (component : Name) : Renaming :=
  fun name =>
    if name = Name.own then component else if name = Name.parent then Name.own else name

/-- Renames the component of a variable. -/
def Variable.rename (σ : Renaming) (v : Variable) : Variable := { v with component := σ v.component }

/-- Replacements for variables, given for some of them. -/
abbrev Substitution := Variable → Option Variable

/-- The substitution of a list of pairs; of two pairs with one source the later counts. -/
def Substitution.ofList (pairs : List (Variable × Variable)) : Substitution :=
  fun v => (pairs.reverse.find? fun pair => pair.1 == v).map (·.2)

/-- The replacement of a variable, which is itself if none is given. -/
def Substitution.apply (σ : Substitution) (v : Variable) : Variable := (σ v).getD v

end SpatialGrammar
