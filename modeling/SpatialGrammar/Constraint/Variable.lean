import SpatialGrammar.Constraint.Error
import SpatialGrammar.Order.Distinct
import SpatialGrammar.Order.NameMap
import SpatialGrammar.Plane.Box

/-!
# Variables

A variable is an attribute of a named box. The box that a constraint is about has the empty name,
the box around it the name `_`; `this` and `parent` are other words for the two.
-/

namespace SpatialGrammar

/-- The name of the box that a constraint is about. -/
def Name.own : Name := ""

/-- The name of the box around the one that a constraint is about. -/
def Name.parent : Name := "_"

/-- The name that a word stands for. -/
def Name.canonical (name : Name) : Name :=
  if name = "this" then Name.own else if name = "parent" then Name.parent else name

/-- An attribute of a box. -/
inductive Attribute where
  | left
  | top
  | right
  | bottom
  | width
  | height
  deriving DecidableEq, Repr, Inhabited

namespace Attribute

/-- The attributes in their standing order. -/
def all : List Attribute := [left, top, right, bottom, width, height]

/-- The value of the attribute for a box. -/
def of (a : Attribute) (b : Box) : Int :=
  match a with
  | left => b.left
  | top => b.top
  | right => b.right
  | bottom => b.bottom
  | width => b.width
  | height => b.height

/-- The workings of `a.of b`: the far edges are sums. -/
def workings (a : Attribute) (b : Box) : List Int :=
  match a with
  | right => [b.right]
  | bottom => [b.bottom]
  | _ => []

/-- The short name of the attribute. -/
def name : Attribute → String
  | left => "left"
  | top => "top"
  | right => "right"
  | bottom => "bottom"
  | width => "w"
  | height => "h"

/-- The place of the attribute in the standing order. -/
def rank : Attribute → Nat
  | left => 0
  | top => 1
  | right => 2
  | bottom => 3
  | width => 4
  | height => 5

/-- The attribute that is the coordinate of a side. -/
def ofSide : Side → Attribute
  | .right => right
  | .top => top
  | .left => left
  | .bottom => bottom

/-- Reads the name of an attribute, in any case, or the letter that it begins with. -/
def ofText? (text : String) : Option Attribute :=
  match Text.lower text with
  | "l" | "x" | "left" => some left
  | "t" | "y" | "top" => some top
  | "r" | "right" => some right
  | "b" | "bottom" => some bottom
  | "w" | "width" => some width
  | "h" | "height" => some height
  | _ => none

end Attribute

/-- An attribute of a named box. -/
structure Variable where
  component : Name
  attr : Attribute
  deriving DecidableEq, Repr, Inhabited

namespace Variable

/-- The variable for an attribute of the box that a word stands for. -/
def of (name : Name) (attr : Attribute) : Variable := ⟨name.canonical, attr⟩

/-- Variables are ordered by name, then by the standing order of attributes. -/
def precedes (v w : Variable) : Bool :=
  decide (v.component < w.component)
    || (decide (v.component = w.component) && decide (v.attr.rank < w.attr.rank))

/-- Variables in ascending order, each once. -/
def sorted (vs : List Variable) : List Variable := Distinct.ofList precedes vs

/-- Reads a variable: an attribute alone, or a name, an underscore and an attribute, where no name
stands for the parent. -/
def ofText (text : String) : Except ConstraintError Variable :=
  match Attribute.ofText? text with
  | some a => .ok ⟨Name.own, a⟩
  | none =>
    match Text.cutLast? (· == '_') text.toList with
    | none => .error (.unknownAttribute text)
    | some (name, word) =>
      match Attribute.ofText? (String.ofList word) with
      | none => .error (.unknownAttribute (String.ofList word))
      | some a => .ok (of (if name.isEmpty then Name.parent else String.ofList name) a)

/-- The written form of a variable. -/
def text (v : Variable) : String :=
  if v.component = Name.own then v.attr.name
  else if v.component = Name.parent then "_" ++ v.attr.name
  else v.component ++ "_" ++ v.attr.name

end Variable

/-- Values for variables, some of which may be missing. -/
abbrev Assignment := Variable → Option Int

/-- The values that boxes give to their attributes. -/
def Assignment.ofBoxes (boxes : Name → Option Box) : Assignment :=
  fun v => (boxes v.component).map v.attr.of

/-- The workings of reading the values of variables from boxes. -/
def Assignment.ofBoxesWorkings (boxes : Name → Option Box) (vs : List Variable) : List Int :=
  vs.flatMap fun v => ((boxes v.component).map v.attr.workings).getD []

end SpatialGrammar
