import SpatialGrammar.Proofs.Constraint.Placement
import SpatialGrammar.Proofs.Plane.Distance

/-!
# Implicit sides

A placement that names some sides is completed by limits for others. Main statement:
`Placement.implicitSides_exact`, a single outer side admits the components across a gap in its
direction, and inner sides admit components within the parent.
-/

namespace SpatialGrammar

namespace SideMap

variable {m : SideMap} {s : Side} {r : Interval}

lemma mem_toList : (s, r) ∈ m.toList ↔ m.get? s = some r := by
  simp only [toList, List.mem_filterMap, Side.mem_all, true_and, Option.map_eq_some_iff,
    Prod.mk.injEq]
  constructor
  · rintro ⟨_, _, found, rfl, rfl⟩
    exact found
  · exact fun found => ⟨s, r, found, rfl, rfl⟩

lemma isEmpty_eq_false (h : m.get? s = some r) : m.isEmpty = false := by
  cases eq : m.isEmpty with
  | false => rfl
  | true =>
    have mem := mem_toList.2 h
    rw [List.isEmpty_iff.1 eq] at mem
    cases mem

lemma get?_setAll (m : SideMap) (sides : SideSet) (r : Interval) (s : Side) :
    (m.setAll sides r).get? s = if sides.contains s = true then some r else m.get? s := by
  have all : ∀ (list : List Side) (m : SideMap),
      (list.foldl (fun m s => m.set s r) m).get? s = if s ∈ list then some r else m.get? s := by
    intro list
    induction list with
    | nil => simp
    | cons first rest ih =>
      intro m
      rw [List.foldl_cons, ih, get?_set]
      by_cases here : s = first <;> simp [here]
  rw [setAll, all]
  exact if_congr SideSet.mem_toList rfl rfl

end SideMap

namespace Placement

variable {component parent : Box} {s : Side} {r : Interval} {p : Placement} {inner : SideMap}

lemma admits_iff : p.admits component parent = true ↔
    (∀ s r, p.inner.get? s = some r → r.contains (padding component parent s) = true) ∧
      ∀ s r, p.outer.get? s = some r → r.contains (margin component parent s) = true := by
  simp only [admits, Bool.and_eq_true, List.all_eq_true, Prod.forall, SideMap.mem_toList]

section outer

/-- A single outer side goes with a limit for both sides of the other axis. -/
lemma get?_completeOuter (s s' : Side) (r : Interval) :
    (completeOuter (SideMap.set {} s r)).get? s' =
      if s' = s then some r
      else if s'.isHorizontal = !s.isHorizontal then some (Interval.atMost (-1)) else none := by
  cases s <;> cases s' <;> rfl

/-- The projections on an axis overlap if the component lies beyond neither side of it. -/
lemma axisGap_neg_iff {horizontal : Bool} : parent.axisGap component horizontal < 0 ↔
    ∀ s : Side, s.isHorizontal = horizontal →
      (Interval.atMost (-1)).contains (margin component parent s) = true := by
  have limit (n : Int) : (Interval.atMost (-1)).contains n = true ↔ n ≤ -1 := by
    simp [Interval.contains_iff, Interval.atMost]
  simp only [limit, margin]
  constructor
  · intro h s axis
    subst axis
    cases s <;> simp only [Box.axisGap, Side.isHorizontal, Side.opposite, Side.sign, Box.edge,
      Bool.false_eq_true, if_true, if_false] at h ⊢ <;> omega
  · intro h
    cases horizontal with
    | true =>
      have right := h .right rfl
      have left := h .left rfl
      simp only [Box.axisGap, Side.opposite, Side.sign, Box.edge, if_true] at right left ⊢
      omega
    | false =>
      have top := h .top rfl
      have bottom := h .bottom rfl
      simp only [Box.axisGap, Side.opposite, Side.sign, Box.edge, Bool.false_eq_true, if_false]
        at top bottom ⊢
      omega

/-- A single outer side admits what lies across a gap in its direction. -/
lemma admits_outer_iff : (ofSides {} (SideMap.set {} s r) true).admits component parent = true ↔
    ∃ n, parent.directionalGap? component s = some n ∧ r.contains n = true := by
  have gap : (∃ n, parent.directionalGap? component s = some n ∧ r.contains n = true) ↔
      parent.axisGap component (!s.isHorizontal) < 0 ∧
        r.contains (margin component parent s) = true := by
    simp only [Box.directionalGap?_eq_some]
    constructor
    · rintro ⟨_, ⟨overlapping, rfl⟩, within⟩
      exact ⟨overlapping, within⟩
    · exact fun ⟨overlapping, within⟩ => ⟨_, ⟨overlapping, rfl⟩, within⟩
  have none_inner : ∀ s r, (completeInner {}).get? s = some r →
      r.contains (padding component parent s) = true := by
    intro s r h
    cases s <;> cases h
  rw [admits_iff, gap, axisGap_neg_iff]
  show _ ∧ (∀ s' r', (completeOuter (SideMap.set {} s r)).get? s' = some r' → _) ↔ _
  simp only [get?_completeOuter]
  constructor
  · rintro ⟨-, limits⟩
    refine ⟨fun s' axis => limits s' _ ?_, limits s r (if_pos rfl)⟩
    rw [if_neg, if_pos axis]
    rintro rfl
    cases s' <;> cases axis
  · rintro ⟨beside, within⟩
    refine ⟨none_inner, fun s' r' h => ?_⟩
    split at h
    next same =>
      cases h
      exact same ▸ within
    next =>
      obtain ⟨axis, eq⟩ := Option.ite_none_right_eq_some.1 h
      exact Option.some.inj eq ▸ beside s' axis

end outer

section inner

lemma get?_completeInner (some_side : inner.isEmpty = false) (s : Side) :
    (completeInner inner).get? s = some ((inner.get? s).getD (Interval.atLeast 0)) := by
  rw [completeInner, some_side, if_neg Bool.false_ne_true, SideMap.get?_setAll,
    SideSet.complement, SideSet.contains_ofTest, SideMap.declared, SideSet.contains_ofTest]
  cases inner.get? s <;> rfl

/-- A box encloses another one if no side is inset by a negative padding. -/
lemma contains_iff_padding :
    parent.contains component = true ↔ ∀ s, 0 ≤ padding component parent s := by
  rw [Box.contains_iff]
  unfold padding
  constructor
  · intro h s
    cases s <;> simp only [Box.edge, Side.sign] <;> omega
  · intro h
    have right := h .right
    have top := h .top
    have left := h .left
    have bottom := h .bottom
    simp only [Box.edge, Side.sign] at right top left bottom
    omega

/-- Inner sides without negative limits admit what lies within the parent and within the limits. -/
lemma admits_inner_iff (declared : ∃ s r, inner.get? s = some r)
    (inward : ∀ s r, inner.get? s = some r → ∀ n, r.contains n = true → 0 ≤ n) :
    (ofSides inner {} true).admits component parent = true ↔
      parent.contains component = true ∧
        ∀ s r, inner.get? s = some r → r.contains (padding component parent s) = true := by
  obtain ⟨side, limit, found⟩ := declared
  have some_side := SideMap.isEmpty_eq_false found
  have none_outer : ∀ s r, (completeOuter {}).get? s = some r →
      r.contains (margin component parent s) = true := by
    intro s r h
    cases s <;> cases h
  have limits (s : Side) : ((inner.get? s).getD (Interval.atLeast 0)).contains
      (padding component parent s) = true ↔ 0 ≤ padding component parent s ∧
        ∀ r, inner.get? s = some r → r.contains (padding component parent s) = true := by
    cases eq : inner.get? s with
    | none => simp [Interval.contains_iff, Interval.atLeast]
    | some r =>
      simp only [Option.getD_some, Option.some.injEq, forall_eq']
      exact ⟨fun within => ⟨inward s r eq _ within, within⟩, And.right⟩
  rw [contains_iff_padding, ← forall_and, admits_iff]
  show (∀ s r, (completeInner inner).get? s = some r → _) ∧ _ ↔ _
  simp only [get?_completeInner some_side, Option.some.injEq, forall_eq', limits]
  exact and_iff_left none_outer

end inner

/-- With implicit sides, a single outer side admits exactly the components to which there is a gap
from the parent, in the direction of the side and within its limit. Inner sides whose limits have no
negative members admit exactly the components that lie within the parent, with paddings within the
limits. -/
theorem implicitSides_exact (component parent : Box) :
    (∀ s r, (ofSides {} (SideMap.set {} s r) true).admits component parent = true ↔
      ∃ n, parent.directionalGap? component s = some n ∧ r.contains n = true) ∧
    ∀ inner : SideMap, (∃ s r, inner.get? s = some r) →
      (∀ s r, inner.get? s = some r → ∀ n, r.contains n = true → 0 ≤ n) →
      ((ofSides inner {} true).admits component parent = true ↔
        parent.contains component = true ∧
          ∀ s r, inner.get? s = some r → r.contains (padding component parent s) = true) :=
  ⟨fun _ _ => admits_outer_iff, fun _ declared inward => admits_inner_iff declared inward⟩

/-- A component in the lower right corner of its parent lies within it, one that reaches out to the
left does not. -/
theorem implicitSides_exact_corner :
    let inner := (SideMap.set {} .bottom (Interval.exact 0)).set .right (Interval.exact 0)
    let parent : Box := ⟨0, 0, 10, 10⟩
    (∃ s r, inner.get? s = some r) ∧
    (∀ s r, inner.get? s = some r → ∀ n, r.contains n = true → 0 ≤ n) ∧
    (ofSides inner {} true).admits ⟨7, 8, 3, 2⟩ parent = true ∧
    parent.contains ⟨7, 8, 3, 2⟩ = true ∧
    (ofSides inner {} true).admits ⟨-5, 8, 15, 2⟩ parent = false := by
  intro inner parent
  have declared : ∃ s r, inner.get? s = some r := ⟨.bottom, .exact 0, rfl⟩
  have inward : ∀ s r, inner.get? s = some r → ∀ n, r.contains n = true → 0 ≤ n := by
    intro s r found n within
    have zero : r = Interval.exact 0 := by cases s <;> cases found <;> rfl
    subst zero
    exact (Interval.contains_iff.1 within).1 0 rfl
  have exactly := (implicitSides_exact ⟨7, 8, 3, 2⟩ parent).2 inner declared inward
  have admitted : (ofSides inner {} true).admits ⟨7, 8, 3, 2⟩ parent = true := by decide
  exact ⟨declared, inward, admitted, (exactly.1 admitted).1, by decide⟩

end Placement

end SpatialGrammar
