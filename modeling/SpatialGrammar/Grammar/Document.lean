import SpatialGrammar.Document.Value
import SpatialGrammar.Grammar.Definition

/-!
# Grammars in documents

A grammar can be written as a document with the entries `cell_types`, `root`, `options` and
`patterns`. This module reads the definitions of patterns out of such a document; loading them and
building the grammar is the work of `Definition.loadAll` and `Grammar.build`.
-/

namespace SpatialGrammar.GrammarDocument

open Document

/-- The entries of a mapping. Nothing counts as an empty mapping. -/
def entries? : Value → Option (List (Value × Value))
  | .mapping entries => some entries
  | .scalar .null => some []
  | _ => none

/-- A text, which may be missing. -/
def text? : Option Value → Option (Option String)
  | none | some (.scalar .null) => some none
  | some (.scalar (.text s)) => some (some s)
  | _ => none

/-- A text that has to be there. -/
def requiredText? : Value → Option String
  | .scalar (.text s) => some s
  | _ => none

/-- A sequence of texts, which may be missing. Nothing counts as an empty sequence, unless it stands
within the definition of an item. -/
def texts? (inItem : Bool) : Option Value → Option (List String)
  | none => some []
  | some (.sequence items) => items.mapM requiredText?
  | some (.scalar .null) => if inItem then none else some []
  | _ => none

/-- One text or a sequence of texts, which may be missing. -/
def oneOrMany? : Option Value → Option (List String)
  | none | some (.scalar .null) => some []
  | some (.scalar (.text s)) => some [s]
  | some (.sequence items) => items.mapM requiredText?
  | _ => none

/-- An interval, which may be missing. -/
def interval? : Option Value → Option (Option IntervalText)
  | none | some (.scalar .null) => some none
  | some (.scalar (.int n)) => if n ≤ Word.greatest then some (some (.number n)) else none
  | some (.scalar (.text s)) => some (some (.text s))
  | _ => none

/-- A truth value, which may be missing. -/
def bool? (usual : Bool) : Option Value → Option Bool
  | none => some usual
  | some (.scalar (.bool b)) => some b
  | _ => none

/-- A real number, which may be missing. -/
def real? : Option Value → Option (Option Float)
  | none | some (.scalar .null) => some none
  | some (.scalar (.int n)) => some (some (Float.ofInt n))
  | some (.scalar (.real x)) => some (some x)
  | _ => none

/-- What stands under a name. -/
def lookup {α : Type} (entries : List (String × α)) (name : String) : Option α :=
  (entries.find? fun entry => entry.1 == name).map (·.2)

/-- The entries under their names, unless one of the given names comes twice. -/
def distinct? {α : Type} (names : List String) (entries : List (String × α)) :
    Option (List (String × α)) :=
  if names.all fun name => decide ((entries.filter fun entry => entry.1 == name).length ≤ 1) then
    some entries
  else none

/-- The name of the field that a key stands for: a text is a name, and where fields may be numbered,
a natural number stands for the name in its place. Other numbers stand for no field. -/
def fieldName? (numbered : Bool) (names : List String) : Value → Option (Option String)
  | .scalar (.text s) => some (some s)
  | .scalar (.int n) => if numbered && decide (0 ≤ n) then some names[n.toNat]? else none
  | _ => none

/-- The fields of a record that is written as a mapping. -/
def fields? (numbered : Bool) (names : List String) (v : Value) : Option (List (String × Value)) := do
  let named ← (← entries? v).mapM fun (key, value) =>
    (fieldName? numbered names key).map fun name => name.map fun name => (name, value)
  distinct? names (named.filterMap id)

/-- The fields of a placement. -/
def placementNames : List String := ["inside", "outside", "implicit_sides"]

/-- A placement, which may be missing. -/
def placement? : Option Value → Option (Option PlacementText)
  | none | some (.scalar .null) => some none
  | some (.scalar (.text s)) => some (some (.inside s))
  | some (.mapping entries) => do
    let fields ← fields? true placementNames (.mapping entries)
    let inner ← text? (lookup fields "inside")
    let outer ← text? (lookup fields "outside")
    let implicitSides ← bool? true (lookup fields "implicit_sides")
    return some (.detailed inner outer implicitSides)
  | _ => none

/-- The constraints among the fields of a pattern or a component. -/
def constraints? (inItem : Bool) (fields : List (String × Value)) : Option ConstraintTexts := do
  return { size := ← text? (lookup fields "size")
           inside := ← text? (lookup fields "inside")
           outside := ← text? (lookup fields "outside")
           location := ← placement? (lookup fields "location")
           formulas := ← texts? inItem (lookup fields "constraints") }

/-- The fields of a pattern, in their order. -/
def patternNames : List String :=
  ["kind", "extends", "count", "size", "inside", "outside", "location", "constraints",
   "content_type", "item", "direction", "gap", "item_count", "allow_breakdown", "inner", "outer"]

/-- The fields of a pattern that is written as a sequence of their values; the last three may be
left out. -/
def orderedFields? (items : List Value) : Option (List (String × Value)) :=
  if patternNames.length ≤ items.length + 3 ∧ items.length ≤ patternNames.length then
    some (patternNames.zip items)
  else none

/-- The fields of a component. -/
def componentNames : List String :=
  ["pattern", "pattern_definition", "count", "weight", "size", "inside", "outside", "location",
   "constraints"]

/-- The fields of a pattern that hold no further definitions. -/
def patternFields? (inItem : Bool) (fields : List (String × Value)) : Option PatternFields := do
  return { kind := ← text? (lookup fields "kind")
           bases := ← oneOrMany? (lookup fields "extends")
           count := ← interval? (lookup fields "count")
           constraints := ← constraints? inItem fields
           contentType := ← text? (lookup fields "content_type")
           layout := ← text? (lookup fields "direction")
           gap := ← interval? (lookup fields "gap")
           itemCount := ← interval? (lookup fields "item_count")
           allowBreakdown := ← bool? false (lookup fields "allow_breakdown") }

/-- The fields of a component that hold no further definitions. -/
def componentFields? (fields : List (String × Value)) : Option (ComponentFields Float) := do
  return { pattern := ← text? (lookup fields "pattern")
           count := ← interval? (lookup fields "count")
           weight := ← real? (lookup fields "weight")
           constraints := ← constraints? false fields }

/-- The entries of a section of components, which may be missing. Nothing counts as an empty
section, unless it stands within the definition of an item. -/
def section? (inItem : Bool) : Option Value → Option (List (Value × Value))
  | none => some []
  | some (.mapping entries) => some entries
  | some (.scalar .null) => if inItem then none else some []
  | _ => none

mutual

/-- The definition of a pattern with some fields. The budget bounds the depth of definitions in
definitions. -/
def readPattern (budget : Nat) (inItem : Bool) (fields : List (String × Value)) :
    Option (PatternDefinition Float) :=
  match budget with
  | 0 => none
  | budget + 1 => do
    let own ← patternFields? inItem fields
    let item ← readItem budget (lookup fields "item")
    let inner ← section? inItem (lookup fields "inner")
    let outer ← section? inItem (lookup fields "outer")
    return .mk own item (readComponents budget inner) (readComponents budget outer)

/-- The item of an array: a name or a definition, whose fields may be numbered or written in their
order. -/
def readItem (budget : Nat) (v : Option Value) : Option (ItemDefinition Float) :=
  match budget, v with
  | 0, _ => none
  | _, none | _, some (.scalar .null) => some .missing
  | _, some (.scalar (.text s)) => some (.named s)
  | budget + 1, some (.mapping entries) => do
    let fields ← fields? true patternNames (.mapping entries)
    return .inline (← readPattern budget true fields)
  | budget + 1, some (.sequence items) => do
    return .inline (← readPattern budget true (← orderedFields? items))
  | _, _ => none

/-- The components of a section, up to one that cannot be read. -/
def readComponents (budget : Nat) (entries : List (Value × Value)) : ComponentSection Float :=
  match budget, entries with
  | _, [] => .nil
  | 0, _ => .broken .malformed
  | budget + 1, (.scalar (.text name), v) :: rest =>
    match readComponent budget name v with
    | some c => .cons c (readComponents budget rest)
    | none => .broken .malformed
  | _, (key, _) :: _ => .broken (.keyNotText key.describe)

/-- The definition of a component. -/
def readComponent (budget : Nat) (name : Name) (v : Value) : Option (ComponentDefinition Float) :=
  match budget with
  | 0 => none
  | budget + 1 => do
    let fields ← fields? false componentNames v
    let own ← componentFields? fields
    match lookup fields "pattern_definition" with
    | none | some (.scalar .null) => return .named name own
    | some definition =>
      let inner ← fields? false patternNames definition
      return .inline name own (← readPattern budget false inner)

end

/-- Reads the definitions of the patterns of a grammar. -/
def readPatterns (budget : Nat) :
    List (Value × Value) → Except GrammarError (List (Name × PatternDefinition Float))
  | [] => .ok []
  | (.scalar (.text name), v) :: rest =>
    match (fields? false patternNames v).bind (readPattern budget false) with
    | none => .error .malformedDocument
    | some definition => do return (name, definition) :: (← readPatterns budget rest)
  | (key, _) :: _ => .error (.defect "patterns" (.keyNotText key.describe))

/-- The texts of all keys and their nodes. -/
def keyed? (entries : List (Node × Node)) : Option (List (String × Node)) :=
  entries.mapM fun entry =>
    match entry.1 with
    | .scalar _ text => some (text, entry.2)
    | _ => none

/-- Whether nothing is written in a place. -/
def isBlank : Node → Bool
  | .scalar plain text => plain && text.isEmpty
  | _ => false

/-- A regular expression. -/
def regexText? : Node → Option String
  | .scalar plain text =>
    match Scalar.ofText plain text with
    | .text s => some s
    | _ => none
  | _ => none

/-- One regular expression or a sequence of them. -/
def regexTexts? : Node → Option (List String)
  | .sequence items => items.mapM regexText?
  | node => (regexText? node).map fun s => [s]

/-- The cell types, which may be missing. -/
def cellTypes? : Option Node → Option CellTypeTable
  | none => some NameMap.empty
  | some (.mapping entries) => do
    let keyed ← keyed? entries
    return NameMap.ofList (← keyed.mapM fun entry => do return (entry.1, ← regexTexts? entry.2))
  | some node => if isBlank node then some NameMap.empty else none

/-- A number of the options. -/
def realOption? (usual : Float) : Option Node → Option Float
  | none => some usual
  | some (.scalar true text) => Scalar.real? text
  | _ => none

/-- The natural number that a plain text stands for, if it fits a word. Even a zero has no minus
sign. -/
def natural? (text : String) : Option Nat :=
  if text.toList.head? = some '-' then none
  else
    (Scalar.int? text).bind fun n => if 0 ≤ n ∧ n ≤ Word.greatestUnsigned then some n.toNat else none

/-- A count of the options. -/
def countOption? (usual : Nat) : Option Node → Option Nat
  | none => some usual
  | some (.scalar true text) => natural? text
  | _ => none

/-- A limit of the options; nothing means that there is no limit. -/
def limitOption? (usual : Option Nat) : Option Node → Option (Option Nat)
  | none => some usual
  | some (.scalar true text) => if Scalar.isNull text then some none else (natural? text).map some
  | _ => none

/-- The names of the options. -/
def optionNames : List String :=
  ["precision_threshold", "cutoff_ratio", "max_area_results", "element_limit", "match_limit"]

/-- The options, which may be missing as a whole or one by one. -/
def options? : Option Node → Option (Options Float)
  | none => some Options.standard
  | some (.mapping entries) => do
    let keyed ← keyed? entries
    let fields ← distinct? optionNames keyed
    if !fields.all fun entry => optionNames.contains entry.1 then none
    let usual : Options Float := Options.standard
    return {
      precisionThreshold :=
        ← realOption? usual.precisionThreshold (lookup fields "precision_threshold")
      cutoffRatio := ← realOption? usual.cutoffRatio (lookup fields "cutoff_ratio")
      maxAreaResults := ← countOption? usual.maxAreaResults (lookup fields "max_area_results")
      elementLimit := ← limitOption? usual.elementLimit (lookup fields "element_limit")
      matchLimit := ← limitOption? usual.matchLimit (lookup fields "match_limit") }
  | some node => if isBlank node then some Options.standard else none

/-- The name of the root pattern. -/
def root? : Option Node → Option Name
  | some (.scalar _ text) => some text
  | _ => none

/-- How deep sequences and mappings may be nested below the patterns, those of the patterns
included. -/
def depthLimit : Nat := 127

/-- The entries of the patterns. -/
def patternEntries? : Option Node → Option (List (Value × Value))
  | some (.mapping entries) =>
    if (Node.mapping entries).isWithin depthLimit then Value.ofEntries? entries else none
  | some node => if isBlank node then some [] else none
  | none => none

/-- The parts of a grammar as they are written in a document. -/
structure Parts where
  cellTypes : CellTypeTable
  root : Name
  options : Options Float
  patterns : List (Value × Value)

/-- The parts of the grammar that a node describes. -/
def parts? : Node → Option Parts
  | .mapping entries => do
    let fields ← distinct? ["cell_types", "root", "options", "patterns"] (← keyed? entries)
    return { cellTypes := ← cellTypes? (lookup fields "cell_types")
             root := ← root? (lookup fields "root")
             options := ← options? (lookup fields "options")
             patterns := ← patternEntries? (lookup fields "patterns") }
  | _ => none

/-- The grammar that is made of some parts. -/
def build (parts : Parts) : Except GrammarError (Grammar Float) := do
  let budget := 4 * (Value.mapping parts.patterns).size + 4
  let definitions ← readPatterns budget parts.patterns
  let patterns ← Definition.loadAll definitions
  let g ← Grammar.build parts.root patterns parts.cellTypes
  return g.withOptions parts.options

end SpatialGrammar.GrammarDocument

namespace SpatialGrammar

/-- Reads the document of a grammar and checks it. -/
def Grammar.ofText (text : String) : Except GrammarError (Grammar Float) :=
  match (Document.Node.ofText? text).bind GrammarDocument.parts? with
  | none => .error .malformedDocument
  | some parts => GrammarDocument.build parts

end SpatialGrammar
