import SpatialGrammar.Plane.Interval.Notation

/-!
# Errors of constraints

What can be wrong with the text of a constraint or with an attempt to evaluate it.
-/

namespace SpatialGrammar

/-- An error in a constraint. -/
inductive ConstraintError where
  /-- A condition was evaluated without a value for one of its variables. -/
  | missingVariable (condition variableText : String)
  /-- A variable names no attribute of a box. -/
  | unknownAttribute (text : String)
  /-- A text names no side. -/
  | unknownDirection (text : String)
  /-- A text is no constraint, for a reason. -/
  | malformed (text reason : String)
  /-- An interval within a constraint is wrong. -/
  | interval (error : IntervalError)
  deriving DecidableEq, Repr

/-- The wording of an error in a constraint. -/
def ConstraintError.message : ConstraintError → String
  | missingVariable condition variableText =>
    condition ++ ": missing variable '" ++ variableText ++ "'"
  | unknownAttribute text => "unknown attribute '" ++ text ++ "'"
  | unknownDirection text => "unknown direction '" ++ text ++ "'"
  | malformed text reason => "cannot parse constraint '" ++ text ++ "': " ++ reason
  | interval error => error.message

/-- Why a calculation has no result. -/
inductive Fault where
  /-- An integer left the signed 64-bit words. -/
  | overflow
  /-- A constraint could not be evaluated. -/
  | constraint (error : ConstraintError)
  deriving DecidableEq, Repr

/-- Refuses workings that do not fit words. -/
def Fault.guardWords (workings : List Int) : Except Fault Unit :=
  if Word.holdsAll workings then .ok () else .error .overflow

/-- Refuses a calculation some workings of which do not fit words. -/
def Fault.require (fits : Bool) : Except Fault Unit := if fits then .ok () else .error .overflow

/-- A result, provided that the workings that lead to it fit words. -/
def Fault.within {α : Type} (workings : List Int) (result : α) : Except Fault α :=
  if Word.holdsAll workings then .ok result else .error .overflow

end SpatialGrammar
