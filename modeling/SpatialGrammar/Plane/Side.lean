import SpatialGrammar.Number.Word
import SpatialGrammar.Text.Blank

/-!
# The four sides

A side of a box doubles as a direction on the plane. Columns grow to the right and rows grow
downward; turns go counter-clockwise, starting from the right.
-/

namespace SpatialGrammar

/-- A side of a box, and the direction that it faces. -/
inductive Side where
  | right
  | top
  | left
  | bottom
  deriving DecidableEq, Repr, Inhabited

namespace Side

/-- The sides in their standing order. -/
def all : List Side := [right, top, left, bottom]

/-- The number of quarter turns that lead from the right to this side. -/
def turns : Side → Int
  | right => 0
  | top => 1
  | left => 2
  | bottom => 3

/-- The angle of the side, in degrees. -/
def degrees (s : Side) : Int := 90 * s.turns

/-- The side reached from the right by a number of quarter turns, negative ones going clockwise. -/
def ofTurns (n : Int) : Side :=
  match (n % 4).toNat with
  | 0 => right
  | 1 => top
  | 2 => left
  | _ => bottom

/-- The side at an angle that is a multiple of ninety degrees. -/
def ofDegrees? (d : Int) : Option Side :=
  if d % 90 = 0 then some (ofTurns (d / 90)) else none

/-- The side reached from this one by a number of quarter turns. -/
def rotate (s : Side) (n : Int) : Side := ofTurns (s.turns + n)

/-- Whether the turns of `rotate` stay within the words that count turns. -/
def rotateFits (s : Side) (n : Int) : Bool := Word.holdsShort (s.turns + n)

/-- Angles add up. -/
instance : Add Side := ⟨fun a b => a.rotate b.turns⟩

/-- Angles are taken away. -/
instance : Sub Side := ⟨fun a b => a.rotate (-b.turns)⟩

/-- The side across. -/
def opposite : Side → Side
  | right => left
  | top => bottom
  | left => right
  | bottom => top

/-- The side of the same axis toward which coordinates grow. -/
def forward : Side → Side
  | right | left => right
  | top | bottom => bottom

/-- One if coordinates grow toward the side, minus one if they shrink. -/
def sign : Side → Int
  | right | bottom => 1
  | left | top => -1

/-- Whether the side faces along the rows. -/
def isHorizontal : Side → Bool
  | right | left => true
  | top | bottom => false

/-- The two sides of the other axis, the one a quarter turn ahead first. -/
def orthogonal (s : Side) : List Side := [s.rotate 1, s.rotate (-1)]

/-- The name of the side. -/
def name : Side → String
  | right => "right"
  | top => "top"
  | left => "left"
  | bottom => "bottom"

/-- Reads the name of a side, a compass point, a way to look or an angle, in any case and with
blanks around. -/
def ofText? (s : String) : Option Side :=
  match Text.lower (Text.trimmed s) with
  | "right" | "r" | "east" | "0" => some right
  | "top" | "t" | "up" | "above" | "north" | "90" => some top
  | "left" | "l" | "west" | "180" => some left
  | "bottom" | "b" | "down" | "below" | "south" | "270" => some bottom
  | _ => none

/-- The standing order of the sides. -/
def precedes (a b : Side) : Bool := decide (a.turns < b.turns)

theorem mem_all (s : Side) : s ∈ all := by cases s <;> decide

theorem rotate_two (s : Side) : s.rotate 2 = s.opposite := by cases s <;> decide

theorem opposite_opposite (s : Side) : s.opposite.opposite = s := by cases s <;> rfl

end Side

/-- A set of sides. -/
structure SideSet where
  left : Bool := false
  top : Bool := false
  right : Bool := false
  bottom : Bool := false
  deriving DecidableEq, Repr

namespace SideSet

/-- Whether a side belongs to the set. -/
def contains (s : SideSet) : Side → Bool
  | .left => s.left
  | .top => s.top
  | .right => s.right
  | .bottom => s.bottom

/-- The set of the sides that satisfy a test. -/
def ofTest (p : Side → Bool) : SideSet :=
  { left := p .left, top := p .top, right := p .right, bottom := p .bottom }

/-- The set of the sides on a list. -/
def ofList (sides : List Side) : SideSet := ofTest fun s => sides.contains s

/-- The members in the standing order of sides. -/
def toList (s : SideSet) : List Side := Side.all.filter s.contains

/-- The sides that do not belong to the set. -/
def complement (s : SideSet) : SideSet := ofTest fun d => !s.contains d

/-- The sides orthogonal to some member. -/
def orthogonal (s : SideSet) : SideSet := ofList (s.toList.flatMap Side.orthogonal)

/-- The number of members. -/
def size (s : SideSet) : Nat := s.toList.length

/-- The set as a number: left counts one, top two, right four and bottom eight. -/
def bits (s : SideSet) : Nat :=
  s.left.toNat + 2 * s.top.toNat + 4 * s.right.toNat + 8 * s.bottom.toNat

theorem contains_ofTest (p : Side → Bool) (d : Side) : (ofTest p).contains d = p d := by
  cases d <;> rfl

theorem mem_toList {s : SideSet} {d : Side} : d ∈ s.toList ↔ s.contains d = true := by
  simp [toList, Side.mem_all]

end SideSet

end SpatialGrammar
