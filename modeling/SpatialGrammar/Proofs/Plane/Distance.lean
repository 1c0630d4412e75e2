import Mathlib.Algebra.Order.Group.Unbundled.Int
import Mathlib.Order.Bounds.Basic
import SpatialGrammar.Plane.Box.Distance
import SpatialGrammar.Proofs.Plane.Box

/-!
# How far boxes are apart

The distance to touch is computed from the gaps along the two axes. Main statement:
`Box.distanceToTouch_least`, it is the least number of steps between the boxes with their outlines,
and the gap between boxes that face each other.
-/

namespace SpatialGrammar.Box

variable {b c : Box} {p q : Point} {s : Side} {n : Int}

/-- A point lies within the edges of a box or on them. -/
def Reaches (b : Box) (p : Point) : Prop :=
  b.left ≤ p.x ∧ p.x ≤ b.right ∧ b.top ≤ p.y ∧ p.y ≤ b.bottom

section stretches

variable {l r l' r' x x' : Int}

/-- Points of two stretches are at least as far from each other as the stretches are. -/
lemma gap_le_natAbs (h : l ≤ x ∧ x ≤ r) (h' : l' ≤ x' ∧ x' ≤ r') :
    max (max (l' - r) (l - r')) 0 ≤ ((x - x').natAbs : Int) := by
  omega

/-- Some points of two stretches are as near to each other as the stretches are. -/
lemma exists_natAbs_eq_gap (h : l ≤ r) (h' : l' ≤ r') :
    ∃ x x', (l ≤ x ∧ x ≤ r) ∧ (l' ≤ x' ∧ x' ≤ r') ∧
      ((x - x').natAbs : Int) = max (max (l' - r) (l - r')) 0 := by
  -- in each stretch, the point nearest to where the later one begins
  refine ⟨min r (max l l'), min r' (max l l'), ?_, ?_, ?_⟩ <;> omega

end stretches

lemma distanceToTouch_le (hp : b.Reaches p) (hq : c.Reaches q) :
    b.distanceToTouch c ≤ p.distance q := by
  obtain ⟨hl, hr, ht, hb⟩ := hp
  obtain ⟨hl', hr', ht', hb'⟩ := hq
  exact Int.add_le_add (gap_le_natAbs ⟨hl, hr⟩ ⟨hl', hr'⟩) (gap_le_natAbs ⟨ht, hb⟩ ⟨ht', hb'⟩)

/-- The distance between points that lie as near as possible on both axes is the distance to
touch. -/
lemma exists_distance_eq (b c : Box) :
    ∃ p q, b.Reaches p ∧ c.Reaches q ∧ p.distance q = b.distanceToTouch c := by
  obtain ⟨x, x', hx, hx', across⟩ := exists_natAbs_eq_gap b.left_le_right c.left_le_right
  obtain ⟨y, y', hy, hy', down⟩ := exists_natAbs_eq_gap b.top_le_bottom c.top_le_bottom
  exact ⟨⟨x, y⟩, ⟨x', y'⟩, ⟨hx.1, hx.2, hy⟩, ⟨hx'.1, hx'.2, hy'⟩, congrArg₂ (· + ·) across down⟩

section gaps

lemma axisGap_comm (b c : Box) (horizontal : Bool) :
    b.axisGap c horizontal = c.axisGap b horizontal := by
  cases horizontal <;> exact max_comm _ _

lemma distanceToTouch_comm (b c : Box) : b.distanceToTouch c = c.distanceToTouch b := by
  rw [distanceToTouch, axisGap_comm, axisGap_comm b c false]
  rfl

lemma right_translate (b : Box) (dx dy : Int) : (b.translate dx dy).right = b.right + dx :=
  Int.add_right_comm _ _ _

lemma bottom_translate (b : Box) (dx dy : Int) : (b.translate dx dy).bottom = b.bottom + dy :=
  Int.add_right_comm _ _ _

lemma axisGap_translate (b c : Box) (dx dy : Int) (horizontal : Bool) :
    (b.translate dx dy).axisGap (c.translate dx dy) horizontal = b.axisGap c horizontal := by
  unfold axisGap
  rw [right_translate, right_translate, bottom_translate, bottom_translate]
  dsimp only [translate]
  split <;> congr 1 <;> omega

/-- The gap from one box to another one is the gap back in the opposite direction. -/
lemma directionalGap?_opposite (b c : Box) (s : Side) :
    b.directionalGap? c s.opposite = c.directionalGap? b s := by
  have axis : s.opposite.isHorizontal = s.isHorizontal := by cases s <;> rfl
  unfold directionalGap?
  rw [axis, axisGap_comm]
  cases s <;> rfl

/-- There is a gap in a direction between boxes whose projections on the other axis overlap. -/
lemma directionalGap?_eq_some : b.directionalGap? c s = some n ↔
    b.axisGap c (!s.isHorizontal) < 0 ∧ (c.edge s.opposite - b.edge s) * s.sign = n := by
  unfold directionalGap?
  split
  next apart => simp only [reduceCtorEq, false_iff, not_and, not_lt.2 apart, false_imp_iff]
  next overlapping =>
    rw [and_iff_right (not_le.1 overlapping)]
    cases s <;> simp only [Option.some.injEq, Side.opposite, Side.sign, edge] <;> omega

/-- A gap between boxes that face each other is the gap of their projections. -/
lemma axisGap_eq_of_nonneg (facing : (c.edge s.opposite - b.edge s) * s.sign = n) (h : 0 ≤ n) :
    b.axisGap c s.isHorizontal = n := by
  have := b.left_le_right
  have := c.left_le_right
  have := b.top_le_bottom
  have := c.top_le_bottom
  cases s <;> simp only [Side.opposite, Side.sign, edge] at facing <;>
    simp only [axisGap, Side.isHorizontal, Bool.false_eq_true, if_true, if_false] <;> omega

lemma distanceToTouch_eq_of_gap (h : b.directionalGap? c s = some n) (nonneg : 0 ≤ n) :
    b.distanceToTouch c = n := by
  obtain ⟨overlapping, facing⟩ := directionalGap?_eq_some.1 h
  have along := axisGap_eq_of_nonneg facing nonneg
  unfold distanceToTouch
  -- the gap along the other axis is negative and counts as zero
  cases horizontal : s.isHorizontal <;> rw [horizontal] at along overlapping <;>
    simp only [Bool.not_true, Bool.not_false] at overlapping <;> omega

end gaps

/-- The distance to touch is the least number of steps that lead from a point of one box to a point
of the other, with the points on their outlines. It is the same in both directions and wherever the
boxes are moved together, and it is the gap between boxes that face each other. -/
theorem distanceToTouch_least (b c : Box) :
    IsLeast {n | ∃ p q, b.Reaches p ∧ c.Reaches q ∧ p.distance q = n} (b.distanceToTouch c) ∧
    b.distanceToTouch c = c.distanceToTouch b ∧
    (∀ dx dy, (b.translate dx dy).distanceToTouch (c.translate dx dy) = b.distanceToTouch c) ∧
    ∀ s n, b.directionalGap? c s = some n → 0 ≤ n → b.distanceToTouch c = n := by
  refine ⟨⟨exists_distance_eq b c, ?_⟩, distanceToTouch_comm b c, fun dx dy => ?_, ?_⟩
  · rintro _ ⟨p, q, hp, hq, rfl⟩
    exact distanceToTouch_le hp hq
  · simp only [distanceToTouch, axisGap_translate]
  · exact fun s n h nonneg => distanceToTouch_eq_of_gap h nonneg

/-- Two boxes that face each other across three columns are three steps apart. -/
theorem distanceToTouch_least_columns :
    let b : Box := ⟨0, 0, 2, 3⟩
    let c : Box := ⟨5, 1, 4, 1⟩
    b.directionalGap? c .right = some 3 ∧ (0 : Int) ≤ 3 ∧ b.distanceToTouch c = 3 := by
  intro b c
  have gap : b.directionalGap? c .right = some 3 := by decide
  exact ⟨gap, by decide, (distanceToTouch_least b c).2.2.2 .right 3 gap (by decide)⟩

end SpatialGrammar.Box
