import SpatialGrammar.Number.Score
import SpatialGrammar.Order.NameMap
import SpatialGrammar.Regex.Reader
import SpatialGrammar.Regex.Search

/-!
# Cell types

The kinds of text that cells can hold, each described by regular expressions. A text belongs to a
type to the degree to which the longest match of one of its expressions covers the text.
-/

namespace SpatialGrammar

/-- A type that a text may have, and how sure that is. -/
structure Classification (α : Type) where
  cellType : Name
  confidence : α
  deriving Repr

/-- Gives the types that a text may have, the likeliest first. -/
abbrev Classifier (α : Type) := String → List (Classification α)

/-- The regular expressions of cell types, written out. -/
abbrev CellTypeTable := NameMap (List String)

/-- Cell types with the programs of their regular expressions, in ascending order of names. -/
structure CellTypes where
  types : List (Name × List Program)

namespace CellTypes

/-- Reads the expressions of a type; the error names the type. -/
def readType (entry : Name × List String) : Except Name (Name × List Program) :=
  match entry.2.mapM Regex.ofText? with
  | some regexes => .ok (entry.1, regexes.map Regex.program)
  | none => .error entry.1

/-- Reads the expressions of all types; the error names the first type with a wrong one. -/
def ofTable (table : CellTypeTable) : Except Name CellTypes :=
  (table.toList.mapM readType).map CellTypes.mk

/-- The names of the types. -/
def names (t : CellTypes) : List Name := t.types.map (·.1)

/-- Whether there is a type with a name. -/
def declares (t : CellTypes) (name : Name) : Bool := t.names.contains name

/-- The length of the longest match of one of several expressions. -/
def longestMatch (programs : List Program) (text : List Char) : Nat :=
  (programs.flatMap fun p => (p.findAll text).map fun (start, stop) => stop - start).foldl max 0

/-- The types that a text may have, the likeliest first, those equally likely by name. -/
def classify {α : Type} [Score α] (t : CellTypes) : Classifier α := fun text =>
  let cs := Text.trim text.toList
  let found := t.types.filterMap fun (name, programs) =>
    match longestMatch programs cs with
    | 0 => none
    | covered => some (⟨name, Score.share covered cs.length⟩ : Classification α)
  found.mergeSort fun a b => Score.sortLE b.confidence a.confidence

end CellTypes

end SpatialGrammar
