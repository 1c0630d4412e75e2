import SpatialGrammar.Grammar.Basic

/-!
# Definitions of patterns

Patterns as they are written down: with kinds and layouts as words, intervals and constraints as
texts, and patterns for items and components in place of their names. `loadAll` turns definitions
into patterns. A pattern that is defined in place is named after the pattern around it and loaded
before that one; a definition of unknown kind is left out.
-/

namespace SpatialGrammar

/-- An interval as it is written down: a number or a text. -/
inductive IntervalText where
  | number (n : Int)
  | text (s : String)
  deriving DecidableEq

/-- The interval that is written down. -/
def IntervalText.toInterval : IntervalText → Except IntervalError Interval
  | number n => .ok (Interval.exact n)
  | text s => Interval.ofText s

/-- A placement as it is written down. -/
inductive PlacementText where
  /-- Inner sides only. -/
  | inside (sides : String)
  | detailed (inside outside : Option String) (implicitSides : Bool)
  deriving DecidableEq

/-- The placement that is written down. -/
def PlacementText.toPlacement : PlacementText → Except ConstraintError Placement
  | .inside sides => Placement.ofTexts (some sides) none true
  | .detailed inner outer implicitSides => Placement.ofTexts inner outer implicitSides

/-- The constraints of a pattern or a component as they are written down. -/
structure ConstraintTexts where
  size : Option String
  inside : Option String
  outside : Option String
  location : Option PlacementText
  formulas : List String
  deriving DecidableEq

namespace ConstraintTexts

/-- No constraints. -/
def none : ConstraintTexts := ⟨.none, .none, .none, .none, []⟩

/-- The constraints that are written down: size, location, sides and formulas, in this order. -/
def toConstraints (t : ConstraintTexts) : Except ConstraintError (List Constraint) := do
  let size ← t.size.toList.mapM Extent.ofText
  let location ← t.location.toList.mapM PlacementText.toPlacement
  let sides ←
    if t.inside.isSome || t.outside.isSome then
      (Placement.ofTexts t.inside t.outside true).map fun p => [p]
    else .ok []
  let formulas ← t.formulas.mapM Constraint.ofText
  return size.map .extent ++ location.map .placement ++ sides.map .placement ++ formulas

end ConstraintTexts

/-- What the definition of a pattern says directly. -/
structure PatternFields where
  kind : Option String
  bases : List Name
  count : Option IntervalText
  constraints : ConstraintTexts
  contentType : Option Name
  layout : Option String
  gap : Option IntervalText
  itemCount : Option IntervalText
  allowBreakdown : Bool
  deriving DecidableEq

/-- What the definition of a component says directly. -/
structure ComponentFields (α : Type) where
  pattern : Option Name
  count : Option IntervalText
  weight : Option α
  constraints : ConstraintTexts

/-- Why the components of a definition cannot be read. -/
inductive SectionError where
  /-- The name of a component is no text; it is given in its written form. -/
  | keyNotText (key : String)
  | malformed
  deriving DecidableEq

/-- The error of a definition whose components cannot be read. -/
def SectionError.toError (pattern : Name) : SectionError → GrammarError
  | keyNotText key => .defect pattern (.keyNotText key)
  | malformed => .malformedDocument

mutual

/-- The definition of a pattern, with its item and its inner and outer components. -/
inductive PatternDefinition (α : Type) where
  | mk (fields : PatternFields) (item : ItemDefinition α) (inner outer : ComponentSection α)

/-- The item of an array: none, the name of a pattern, or a definition in place. -/
inductive ItemDefinition (α : Type) where
  | missing
  | named (pattern : Name)
  | inline (definition : PatternDefinition α)

/-- Component definitions, some of which may have turned out not to be readable. -/
inductive ComponentSection (α : Type) where
  | nil
  | cons (component : ComponentDefinition α) (rest : ComponentSection α)
  /-- The components cannot be read. -/
  | broken (error : SectionError)

/-- The definition of a component, perhaps with a pattern defined in place. -/
inductive ComponentDefinition (α : Type) where
  | named (name : Name) (fields : ComponentFields α)
  | inline (name : Name) (fields : ComponentFields α) (definition : PatternDefinition α)

end

/-- The kinds of patterns that definitions can name. -/
inductive KindWord where
  | cell
  | general
  | area
  | array (inContext : Bool)
  | unknown
  deriving DecidableEq

namespace KindWord

/-- Reads the name of a kind, in any case. -/
def ofText (s : String) : KindWord :=
  match Text.lower s with
  | "cell" | "terminal" => cell
  | "general" | "structure" | "nonterminal" => general
  | "area" => area
  | "array" => array false
  | "array-in-context" => array true
  | _ => unknown

end KindWord

/-- Whether an array has no item. -/
def ItemDefinition.isMissing {α : Type} : ItemDefinition α → Bool
  | .missing => true
  | _ => false

namespace ComponentSection

variable {α : Type}

/-- Whether there is nothing in a section. -/
def isEmpty : ComponentSection α → Bool
  | nil => true
  | _ => false

/-- Why the section cannot be read, if it cannot. -/
def error? : ComponentSection α → Option SectionError
  | nil => none
  | cons _ rest => rest.error?
  | broken error => some error

end ComponentSection

namespace Definition

variable {α : Type}

/-- The kind of a defined pattern; where it is not named, it follows from what is defined. -/
def kindWord (name : Name) (fields : PatternFields) (hasItem hasInner : Bool) :
    Except GrammarError KindWord :=
  match fields.kind with
  | some word => .ok (KindWord.ofText word)
  | none =>
    if fields.contentType.isSome then .ok .cell
    else if hasItem then .ok (.array false)
    else if hasInner then .ok .general
    else .error (.defect name .missingKind)

/-- An interval of a pattern. -/
def intervalOf (pattern : Name) (text : Option IntervalText) (usual : Interval) :
    Except GrammarError Interval :=
  match text with
  | none => .ok usual
  | some t => t.toInterval.mapError (.interval pattern)

/-- The layout of an array; it is automatic where none is named. -/
def layoutOf (pattern : Name) (text : Option String) : Except GrammarError Layout :=
  match text with
  | none => .ok .auto
  | some t =>
    let word := Text.lower (Text.trimmed t)
    match Layout.ofWord? word with
    | some layout => .ok layout
    | none => .error (.defect pattern (.unknownLayout word))

/-- The shape of an array with a given item. -/
def shapeOf (pattern : Name) (fields : PatternFields) (item : Name) :
    Except GrammarError ArrayShape := do
  let layout ← layoutOf pattern fields.layout
  let gap ← intervalOf pattern fields.gap (Interval.exact 0)
  let itemCount ← intervalOf pattern fields.itemCount (Interval.atLeast 1)
  return { item, layout, gap, itemCount, allowBreakdown := fields.allowBreakdown }

/-- The constraints of a pattern or of one of its components. -/
def constraintsOf (pattern : Name) (texts : ConstraintTexts) : Except GrammarError (List Constraint) :=
  texts.toConstraints.mapError (.constraint pattern)

/-- The component with a given pattern. -/
def componentOf [Score α] (parent name : Name) (isOuter : Bool) (fields : ComponentFields α)
    (pattern : Name) : Except GrammarError (Component α) := do
  let count ← intervalOf parent fields.count (Interval.exact 1)
  let constraints ← constraintsOf parent fields.constraints
  return { name, pattern, isOuter, constraints, count, weight := fields.weight.getD Score.one }

/-- The name of a pattern that is defined in place. -/
def inlineName (parent part : Name) : Name := parent ++ "." ++ part

/-- Components and the patterns that are defined in them. -/
abbrev Loaded (α : Type) := List (Component α) × List (Pattern α)

/-- What a section gives; if some of its components cannot be read, it gives nothing. -/
def sectionOf (parent : Name) (error : Option SectionError)
    (loaded : Except GrammarError (Loaded α)) : Except GrammarError (Loaded α) :=
  match error with
  | some e => .error (e.toError parent)
  | none => loaded

/-- The pattern of a known kind, behind the patterns that are defined in it. -/
def bodyOf (name : Name) (fields : PatternFields) (kind : PatternKind) (itemPatterns : List (Pattern α))
    (inner outer : Except GrammarError (Loaded α)) : Except GrammarError (List (Pattern α)) := do
  let constraints ← constraintsOf name fields.constraints
  let count ← intervalOf name fields.count Interval.unbounded
  let (innerComponents, innerPatterns) ← inner
  let (outerComponents, outerPatterns) ← outer
  return itemPatterns ++ innerPatterns ++ outerPatterns
    ++ [{ name, kind, count, constraints, components := innerComponents ++ outerComponents
          bases := fields.bases }]

mutual

/-- The patterns that a definition gives: those defined in place first, then its own one. -/
def load [Score α] (name : Name) : PatternDefinition α → Except GrammarError (List (Pattern α))
  | .mk fields item inner outer => do
    let body kind itemPatterns := bodyOf name fields kind itemPatterns
      (sectionOf name inner.error? (loadComponents name false inner))
      (sectionOf name outer.error? (loadComponents name true outer))
    match ← kindWord name fields (!item.isMissing) (!inner.isEmpty) with
    | .unknown => return []
    | .cell =>
      match fields.contentType with
      | none => throw (.defect name .missingContentType)
      | some contentType => body (.cell contentType) []
    | .general => body .general []
    | .area => body .area []
    | .array inContext =>
      let (itemName, itemPatterns) ← loadItem name item
      let shape ← shapeOf name fields itemName
      body (if inContext then .arrayInContext shape else .array shape) itemPatterns

/-- The name of an array's item, and the patterns that its definition gives. -/
def loadItem [Score α] (name : Name) : ItemDefinition α → Except GrammarError (Name × List (Pattern α))
  | .missing => .error (.defect name .missingItem)
  | .named item => .ok (item, [])
  | .inline definition => do
    let patterns ← load (inlineName name "item") definition
    return (inlineName name "item", patterns)

/-- The components of a section and the patterns that are defined in them. -/
def loadComponents [Score α] (parent : Name) (isOuter : Bool) :
    ComponentSection α → Except GrammarError (Loaded α)
  | .nil | .broken _ => .ok ([], [])
  | .cons definition rest => do
    let (component, patterns) ← loadComponent parent isOuter definition
    let (components, more) ← loadComponents parent isOuter rest
    return (component :: components, patterns ++ more)

/-- A component and the patterns that its definition gives. A pattern that is named wins over one
that is defined in place. -/
def loadComponent [Score α] (parent : Name) (isOuter : Bool) :
    ComponentDefinition α → Except GrammarError (Component α × List (Pattern α))
  | .named name fields => do
    match fields.pattern with
    | none => throw (.missingComponentPattern parent name)
    | some pattern => return (← componentOf parent name isOuter fields pattern, [])
  | .inline name fields definition => do
    match fields.pattern with
    | some pattern => return (← componentOf parent name isOuter fields pattern, [])
    | none =>
      let patterns ← load (inlineName parent name) definition
      return (← componentOf parent name isOuter fields (inlineName parent name), patterns)

end

/-- The patterns that definitions give, in their order. -/
def loadAll [Score α] : List (Name × PatternDefinition α) → Except GrammarError (List (Pattern α))
  | [] => .ok []
  | (name, definition) :: rest => do
    let patterns ← load name definition
    return patterns ++ (← loadAll rest)

end Definition

end SpatialGrammar
