import SpatialGrammar.Constraint.Error
import SpatialGrammar.Order.NameMap

/-!
# Errors of grammars

What can be wrong with a grammar, and how it is worded.
-/

namespace SpatialGrammar

/-- What can be wrong within a single pattern. -/
inductive PatternDefect where
  | duplicateComponent (component : Name)
  /-- A weight is negative or no number; the weight is given in its written form. -/
  | invalidWeight (component : Name) (weight : String)
  | noItems (count : Interval)
  | missingKind
  | missingContentType
  | missingItem
  | unknownLayout (word : String)
  /-- A key that has to be a text is none; the key is given in its written form. -/
  | keyNotText (key : String)
  deriving DecidableEq

namespace PatternDefect

/-- The wording of a defect. -/
def message : PatternDefect → String
  | duplicateComponent component => "duplicate component '" ++ component ++ "'"
  | invalidWeight component weight =>
    "component '" ++ component ++ "' has invalid weight " ++ weight
  | noItems count => "item_count " ++ count.text ++ " admits no items"
  | missingKind => "missing \x60kind\x60"
  | missingContentType => "cell patterns need a \x60content_type\x60"
  | missingItem => "array patterns need an \x60item\x60"
  | unknownLayout word => "unknown array direction '" ++ word ++ "'"
  | keyNotText key => "non-string key " ++ key

end PatternDefect

/-- What can be wrong with a grammar. -/
inductive GrammarError where
  /-- A pattern is among its own bases, directly or through others. -/
  | cyclicBases (pattern : Name)
  /-- Patterns depend on each other in a circle. -/
  | cyclicDependencies (patterns : List Name)
  | unknownPattern (referrer pattern : Name)
  | unknownRoot (root : Name)
  | undeclaredCellType (pattern cellType : Name)
  | missingComponentPattern (pattern component : Name)
  /-- The count of a component allows no match. -/
  | emptyComponentCount (pattern component : Name) (count : Interval)
  | noInnerComponents (pattern : Name)
  | duplicatePattern (pattern : Name)
  /-- A cell type has a wrong regular expression. -/
  | invalidRegex (cellType : Name)
  | interval (pattern : Name) (error : IntervalError)
  | constraint (pattern : Name) (error : ConstraintError)
  | defect (pattern : Name) (defect : PatternDefect)
  /-- The document that describes the grammar is malformed. -/
  | malformedDocument
  deriving DecidableEq

namespace GrammarError

/-- The wording of what is wrong with a pattern. -/
def inPattern (pattern : Name) (reason : String) : String := "pattern '" ++ pattern ++ "': " ++ reason

/-- The wording of a cycle. -/
def cycle (participants : String) : String :=
  "cycle in grammar involving patterns: " ++ participants

/-- The wording of an error. -/
def message : GrammarError → String
  | cyclicBases pattern => cycle (pattern ++ " extends itself")
  | cyclicDependencies patterns => cycle (String.intercalate ", " patterns)
  | unknownPattern referrer pattern =>
    "pattern '" ++ referrer ++ "' references unknown pattern '" ++ pattern ++ "'"
  | unknownRoot root => "root pattern '" ++ root ++ "' is not defined"
  | undeclaredCellType pattern cellType =>
    "pattern '" ++ pattern ++ "' references undeclared cell type '" ++ cellType ++ "'"
  | missingComponentPattern pattern component =>
    "component '" ++ component ++ "' of pattern '" ++ pattern
      ++ "' defines neither \x60pattern\x60 nor \x60pattern_definition\x60"
  | emptyComponentCount pattern component count =>
    "component '" ++ component ++ "' of pattern '" ++ pattern ++ "' has count " ++ count.text
      ++ ", which admits no match"
  | noInnerComponents pattern =>
    "pattern '" ++ pattern ++ "' must declare at least one inner component"
  | duplicatePattern pattern => "duplicate pattern name '" ++ pattern ++ "'"
  | invalidRegex cellType => "invalid regex for cell type '" ++ cellType ++ "'"
  | interval pattern e => inPattern pattern e.message
  | constraint pattern e => inPattern pattern e.message
  | defect pattern d => inPattern pattern d.message
  | malformedDocument => "YAML parse error"

end GrammarError

end SpatialGrammar
