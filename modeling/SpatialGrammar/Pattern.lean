import SpatialGrammar.Constraint.Basic

/-!
# Patterns

A pattern is a production of a grammar: a single cell, an array of like items, a structure of
named components, or an area whose components float within ranges. Constraints are written from
the pattern's own point of view; those that mention the parent only make sense once the pattern is
bound as a component.
-/

namespace SpatialGrammar

/-- How the items of an array line up. -/
inductive Layout where
  | row
  | column
  /-- A connected area of items. -/
  | fill
  /-- Rows or columns, whichever gives fewer clusters. -/
  | auto
  deriving DecidableEq, Repr

namespace Layout

/-- The name of the layout. -/
def name : Layout → String
  | row => "row"
  | column => "column"
  | fill => "fill"
  | auto => "auto"

/-- Reads a word for a layout. -/
def ofWord? (word : String) : Option Layout :=
  match word with
  | "row" | "horizontal" | "right" => some row
  | "column" | "col" | "vertical" | "down" => some column
  | "fill" | "area" => some fill
  | "auto" => some auto
  | _ => none

end Layout

/-- What an array consists of and how it lines up. -/
structure ArrayShape where
  /-- The pattern of the items. -/
  item : Name
  layout : Layout
  /-- The gaps that neighbouring items may leave between them. -/
  gap : Interval := Interval.exact 0
  itemCount : Interval := Interval.atLeast 1
  /-- Whether clusters that do not fit may be broken into pieces. -/
  allowBreakdown : Bool := false
  deriving DecidableEq

/-- The kind of a pattern. -/
inductive PatternKind where
  /-- A cell whose text has a type. -/
  | cell (contentType : Name)
  /-- A structure of named components. -/
  | general
  | array (shape : ArrayShape)
  /-- An array whose excess items are trimmed against the region around it. -/
  | arrayInContext (shape : ArrayShape)
  /-- A structure whose components float within ranges. -/
  | area
  deriving DecidableEq

namespace PatternKind

/-- The name of the kind. -/
def name : PatternKind → String
  | cell _ => "cell"
  | general => "general"
  | array _ => "array"
  | arrayInContext _ => "array-in-context"
  | area => "area"

/-- The shape of an array of either kind. -/
def shape? : PatternKind → Option ArrayShape
  | array shape | arrayInContext shape => some shape
  | _ => none

/-- Whether the pattern is matched from its components. -/
def isComposite : PatternKind → Bool
  | general | area => true
  | _ => false

end PatternKind

/-- A named slot of a composite pattern. Its constraints are written in its own namespace: the
component has no name, and the pattern that owns it is the parent. -/
structure Component (α : Type) where
  name : Name
  /-- The pattern whose matches the component binds. -/
  pattern : Name
  /-- Whether the component lies around the pattern, not counting for its box. -/
  isOuter : Bool := false
  constraints : List Constraint := []
  /-- How many matches the component binds. -/
  count : Interval := Interval.exact 1
  weight : α

namespace Component

variable {α : Type}

/-- Whether the component may stay unbound. -/
def isOptional (c : Component α) : Bool := c.count.start.all fun least => decide (least ≤ 0)

/-- Whether the component may bind other numbers of matches than one. -/
def isRepeated (c : Component α) : Bool := c.count.stop != some 1

/-- The greatest number of matches, if it is limited. -/
def maxCount (c : Component α) : Option Nat := c.count.stop.map Int.toNat

/-- Whether a number of matches is large enough. -/
def admitsCount (c : Component α) (n : Nat) : Bool :=
  c.count.start.all fun least => decide (least ≤ (n : Int))

/-- The placements that the component's own constraints require. -/
def locations (c : Component α) : List Placement := c.constraints.flatMap Constraint.placements

end Component

/-- A production of a grammar. -/
structure Pattern (α : Type) where
  name : Name
  kind : PatternKind
  /-- How many matches a document may have. -/
  count : Interval := Interval.unbounded
  constraints : List Constraint := []
  components : List (Component α) := []
  /-- The patterns under whose names the matches count, too. -/
  bases : List Name := []

namespace Pattern

variable {α : Type}

/-- The patterns whose matches this one is made of. -/
def dependencies (p : Pattern α) : List Name :=
  match p.kind with
  | .cell _ => []
  | .array shape | .arrayInContext shape => [shape.item]
  | .general | .area => p.components.map (·.pattern)

/-- Whether a constraint mentions the parent. -/
def mentionsParent (c : Constraint) : Bool := c.mentions.any fun v => v.component == Name.parent

/-- The constraints that can be checked on a match by itself. -/
def ownConstraints (p : Pattern α) : List Constraint :=
  p.constraints.filter fun c => !mentionsParent c

/-- The constraints relative to the pattern that embeds this one. -/
def contextConstraints (p : Pattern α) : List Constraint := p.constraints.filter mentionsParent

/-- The first limit for the size of a match. -/
def size? (p : Pattern α) : Option Extent := (p.ownConstraints.flatMap Constraint.extents).head?

/-- The component with a name. -/
def component? (p : Pattern α) (name : Name) : Option (Component α) :=
  p.components.find? fun c => c.name == name

end Pattern

end SpatialGrammar
