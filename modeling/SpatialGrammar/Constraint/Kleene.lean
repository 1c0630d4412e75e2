/-!
# Three-valued logic

Truth values that may be unknown: a conjunction with a false member is false and a disjunction
with a true member is true, whatever the others are.
-/

namespace SpatialGrammar.Kleene

/-- The conjunction of truth values. -/
def all (values : List (Option Bool)) : Option Bool :=
  if some false ∈ values then some false
  else if none ∈ values then none
  else some true

/-- The disjunction of truth values. -/
def any (values : List (Option Bool)) : Option Bool :=
  if some true ∈ values then some true
  else if none ∈ values then none
  else some false

/-- The exclusive disjunction, unknown unless both values are known. -/
def xor (a b : Option Bool) : Option Bool := do return (← a) != (← b)

/-- The negation. -/
def not (a : Option Bool) : Option Bool := a.map (!·)

end SpatialGrammar.Kleene
