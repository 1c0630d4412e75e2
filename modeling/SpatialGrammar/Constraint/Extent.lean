import SpatialGrammar.Constraint.Formula
import SpatialGrammar.Constraint.Substitution

/-!
# Extents

Limits for the width and the height of a box, independent of each other. The written forms are
`8x1`, with a star for a free size, and the keyed form `w=2..4, height:1`.
-/

namespace SpatialGrammar

/-- Limits for the sizes of a named box. -/
structure Extent where
  component : Name
  width : Option Interval
  height : Option Interval
  deriving DecidableEq

namespace Extent

/-- Limits for the sizes of the box that a constraint is about. -/
def ofSizes (width height : Option Interval) : Extent := ⟨Name.own, width, height⟩

/-- The limits that are there, with what they limit. -/
def limits (e : Extent) : List (Attribute × Interval) :=
  (e.width.map fun r => (Attribute.width, r)).toList
    ++ (e.height.map fun r => (Attribute.height, r)).toList

/-- Whether a box has a width and a height within the limits. -/
def admits (e : Extent) (b : Box) : Bool := e.limits.all fun (a, r) => r.contains (a.of b)

/-- The least size that one limit allows, at least one. -/
def leastSize (limit : Option Interval) : Int := max ((limit.bind (·.start)).getD 1) 1

/-- The least width and height within the limits, at least one by one. -/
def leastSizes (e : Extent) : Int × Int := (leastSize e.width, leastSize e.height)

/-- The truth value of the limits. -/
def value? (ρ : Assignment) (e : Extent) : Option Bool :=
  Kleene.all (e.limits.map fun (a, r) => (ρ (Variable.of e.component a)).map r.contains)

/-- The variables that are limited. -/
def mentions (e : Extent) : List Variable := e.limits.map fun (a, _) => Variable.of e.component a

/-- Replaces variables: the limits follow the width of their box. -/
def substitute (σ : Substitution) (e : Extent) : Extent :=
  match σ (Variable.of e.component .width) with
  | some v => { e with component := v.component }
  | none => e

/-- Renames the box. -/
def rename (σ : Renaming) (e : Extent) : Extent := { e with component := σ e.component.canonical }

/-- The written form of a limit, a star if there is none. -/
def limitText (limit : Option Interval) : String := (limit.map Interval.text).getD "*"

/-- The written form of the limits, with the name of the box unless it is the own one. -/
def text (e : Extent) : String :=
  limitText e.width ++ "x" ++ limitText e.height
    ++ if e.component.isEmpty then "" else " of '" ++ e.component ++ "'"

/-- What the limits are called in messages. -/
def describe (e : Extent) : String := "size constraint " ++ e.text

/-- Reads an interval, trimmed. -/
def readLimit (cs : List Char) : Except ConstraintError Interval :=
  (Interval.ofChars (Text.trim cs)).mapError .interval

/-- Reads the entries of the keyed form one by one, each setting one of the limits. -/
def readEntries (text : String) (e : Extent) : List (List Char) → Except ConstraintError Extent
  | [] => .ok e
  | entry :: rest => do
    match Text.cut? (fun c => c == '=' || c == ':') entry with
    | none => throw (.malformed text "expected key=range")
    | some (key, limit) =>
      let range ← readLimit limit
      let word := String.ofList (Text.trim key)
      match Attribute.ofText? word with
      | none => throw (.unknownAttribute word)
      | some .width => readEntries text { e with width := some range } rest
      | some .height => readEntries text { e with height := some range } rest
      | some _ => throw (.malformed text "only width and height can be constrained")

/-- Reads one size of the short form; a star leaves it free. -/
def readSize (cs : List Char) : Except ConstraintError (Option Interval) :=
  if Text.trim cs = ['*'] then .ok none else (readLimit cs).map some

/-- Reads the written form of limits. -/
def ofText (text : String) : Except ConstraintError Extent := do
  let cs := text.toList
  if cs.any fun c => c == '=' || c == ':' then
    let entries := (Text.fields (· == ',') cs).map Text.trim
    readEntries text (ofSizes none none) (entries.filter fun entry => !entry.isEmpty)
  else
    match Text.cut? (fun c => c == 'x' || c == 'X') cs with
    | none => throw (.malformed text "expected WxH")
    | some (width, height) =>
      return ofSizes (← readSize width) (← readSize height)

end Extent

end SpatialGrammar
