import Mathlib.Tactic.Ring
import SpatialGrammar.Constraint.Placement
import SpatialGrammar.Proofs.Constraint.Evaluation
import SpatialGrammar.Proofs.Order.NameMap
import SpatialGrammar.Proofs.Plane.Region

/-!
# The readings of a placement

A placement can be checked on two boxes, evaluated as a formula on their edges, and turned around
into a region of parents. Main statement: `Placement.readings_agree`, the three readings say the
same about every component and parent. In general, `exists_parentRegion?_iff` compares the region
with the check, and `value?_toFormula` the formula with the check.
-/

namespace SpatialGrammar

namespace SideMap

variable {m : SideMap} {s : Side} {r : Interval} {edge : Side → Int}
  {limits : List (Side × Interval)}

lemma get?_set (m : SideMap) (s s' : Side) (r : Interval) :
    (m.set s r).get? s' = if s' = s then some r else m.get? s' := by
  cases s <;> cases s' <;> rfl

/-- Each side lies within its interval, if it has one. -/
def Permits (m : SideMap) (edge : Side → Int) : Prop :=
  ∀ s, ((m.get? s).getD Interval.unbounded).contains (edge s) = true

lemma permits_empty : Permits {} edge := fun s => by cases s <;> rfl

lemma permits_set : (m.set s r).Permits edge ↔ r.contains (edge s) = true ∧
    ∀ s' ≠ s, ((m.get? s').getD Interval.unbounded).contains (edge s') = true := by
  simp only [Permits, get?_set]
  constructor
  · intro h
    refine ⟨by simpa using h s, fun s' ne => by simpa [ne] using h s'⟩
  · intro ⟨here, elsewhere⟩ s'
    by_cases same : s' = s
    · simpa [same] using here
    · simpa [same] using elsewhere s' same

/-- Narrowing one side asks for one more limit. -/
lemma exists_permits_set_iff :
    (∃ t, ((m.get? s).getD Interval.unbounded).inter? r = some t ∧ (m.set s t).Permits edge) ↔
      m.Permits edge ∧ r.contains (edge s) = true := by
  simp only [permits_set, ← and_assoc, exists_and_right, Interval.exists_inter?_iff]
  constructor
  · intro ⟨⟨here, narrower⟩, elsewhere⟩
    refine ⟨fun s' => ?_, narrower⟩
    by_cases same : s' = s
    · rw [same]
      exact here
    · exact elsewhere s' same
  · intro ⟨all, narrower⟩
    exact ⟨⟨all s, narrower⟩, fun s' _ => all s'⟩

end SideMap

namespace Placement

variable {p : Placement} {ρ : Assignment} {component parent : Box} {s : Side} {r : Interval}
  {n : Int}

/-- Narrowing asks for all limits, one after the other. -/
lemma exists_narrow?_iff {m : SideMap} {edge : Side → Int} {limits : List (Side × Interval)} :
    (∃ m', narrow? m limits = some m' ∧ m'.Permits edge) ↔
      m.Permits edge ∧ ∀ limit ∈ limits, limit.2.contains (edge limit.1) = true := by
  induction limits generalizing m with
  | nil => simp [narrow?]
  | cons limit rest ih =>
    rw [List.forall_mem_cons, ← and_assoc, ← SideMap.exists_permits_set_iff]
    simp only [narrow?, Option.bind_eq_bind, Option.bind_eq_some_iff]
    constructor
    · rintro ⟨m', ⟨t, narrowed, found⟩, permits⟩
      obtain ⟨here, later⟩ := ih.1 ⟨m', found, permits⟩
      exact ⟨⟨t, narrowed, here⟩, later⟩
    · rintro ⟨⟨t, narrowed, here⟩, later⟩
      obtain ⟨m', found, permits⟩ := ih.2 ⟨here, later⟩
      exact ⟨m', ⟨t, narrowed, found⟩, permits⟩

section Edges

lemma sign_eq (s : Side) : s.sign = 1 ∨ s.sign = -1 := by cases s <;> decide

lemma contains_signed {k : Int} (unit : k = 1 ∨ k = -1) :
    (signed k r).contains n = true ↔ r.contains (n * k) = true := by
  obtain rfl | rfl := unit
  · rw [Int.mul_one]
    rfl
  · rw [Int.mul_neg_one]
    exact Interval.contains_neg

/-- A parent's side lies where an inner limit wants it if the padding is within the limit. -/
lemma contains_innerEdge : (innerEdge component s r).contains (parent.edge s) = true ↔
    r.contains (padding component parent s) = true :=
  Interval.contains_shift.trans (contains_signed (sign_eq s))

/-- A parent's side lies where an outer limit wants it if the margin is within the limit. -/
lemma contains_outerEdge : (outerEdge component s r).contains (parent.edge s) = true ↔
    r.contains (margin component parent s) = true := by
  have unit : -s.sign = 1 ∨ -s.sign = -1 := by
    have := sign_eq s
    omega
  rw [outerEdge, Interval.contains_shift, contains_signed unit, Int.mul_neg, ← Int.neg_mul,
    Int.neg_sub]
  rfl

end Edges

lemma forall_edgeLimits_iff :
    (∀ limit ∈ p.edgeLimits component, limit.2.contains (parent.edge limit.1) = true) ↔
      p.admits component parent = true := by
  rw [edgeLimits, List.forall_mem_append, List.forall_mem_map, List.forall_mem_map, admits,
    Bool.and_eq_true, List.all_eq_true, List.all_eq_true]
  exact and_congr (forall₂_congr fun _ _ => contains_innerEdge)
    (forall₂_congr fun _ _ => contains_outerEdge)

lemma admits_ofEdges_iff {m : SideMap} {b : Box} :
    let edge s := (m.get? s).getD Interval.unbounded
    (Region.ofEdges (edge .left) (edge .top) (edge .right) (edge .bottom)).admits b = true ↔
      m.Permits b.edge := by
  intro edge
  rw [Region.admits_iff, Span.admits_iff, Span.admits_iff]
  constructor
  · intro ⟨⟨left, right⟩, top, bottom⟩ s
    cases s with
    | right => exact right
    | top => exact top
    | left => exact left
    | bottom => exact bottom
  · intro h
    exact ⟨⟨h .left, h .right⟩, h .top, h .bottom⟩

/-- The region of parents consists of the boxes that the limits admit as parents. -/
theorem exists_parentRegion?_iff :
    (∃ t, p.parentRegion? component = some t ∧ t.admits parent = true) ↔
      p.admits component parent = true := by
  have start : (∃ m, narrow? {} (p.edgeLimits component) = some m ∧ m.Permits parent.edge) ↔
      p.admits component parent = true := by
    rw [exists_narrow?_iff, forall_edgeLimits_iff]
    exact and_iff_right SideMap.permits_empty
  rw [← start]
  simp only [parentRegion?, Option.bind_eq_bind, Option.bind_eq_some_iff]
  constructor
  · rintro ⟨t, ⟨m, narrowed, combined⟩, admitted⟩
    exact ⟨m, narrowed,
      admits_ofEdges_iff.1 (Region.exists_combine?_iff.1 ⟨t, combined, admitted⟩).1⟩
  · rintro ⟨m, narrowed, permits⟩
    obtain ⟨t, combined, admitted⟩ :=
      Region.exists_combine?_iff.2 ⟨admits_ofEdges_iff.2 permits, Region.admits_unbounded⟩
    exact ⟨t, ⟨m, narrowed, combined⟩, admitted⟩

/-- There is a region of parents exactly if some box is admitted as parent. -/
theorem parentRegion?_eq_none_iff :
    p.parentRegion? component = none ↔ ∀ parent, p.admits component parent = false := by
  constructor
  · intro none parent
    rw [← Bool.not_eq_true, ← exists_parentRegion?_iff, none]
    simp
  · intro never
    rw [Option.eq_none_iff_forall_ne_some]
    intro t found
    obtain ⟨m, -, combined⟩ := Option.bind_eq_some_iff.1 found
    obtain ⟨parent, admitted⟩ := Region.exists_admits combined
    have := exists_parentRegion?_iff.1 ⟨t, found, admitted⟩
    rw [never parent] at this
    cases this

section Formula

lemma mem_mentions {v : Variable} (mem : v ∈ p.mentions) : ∃ s,
    v = Variable.of p.component (Attribute.ofSide s) ∨
      v = Variable.of p.parent (Attribute.ofSide s) := by
  have terms {a b : Term} {sign : Int} (h : v ∈ (signedDifference a b sign).mentions) :
      v ∈ a.mentions ∨ v ∈ b.mentions := by
    unfold signedDifference at h
    split at h
    · exact List.mem_append.1 h
    · exact (List.mem_append.1 h).symm
  rw [mentions, toFormula, Formula.mentions, Formula.mentionsOf_eq_flatMap, List.mem_flatMap] at mem
  obtain ⟨a, listed, mem⟩ := mem
  obtain inner | outer := List.mem_append.1 listed
  · obtain ⟨⟨s, r⟩, -, rfl⟩ := List.mem_map.1 inner
    obtain h | h := terms mem
    · exact ⟨s, .inr (List.mem_singleton.1 h)⟩
    · exact ⟨s, .inl (List.mem_singleton.1 h)⟩
  · obtain ⟨⟨s, r⟩, -, rfl⟩ := List.mem_map.1 outer
    obtain h | h := terms mem
    · exact ⟨s.opposite, .inl (List.mem_singleton.1 h)⟩
    · exact ⟨s, .inr (List.mem_singleton.1 h)⟩

lemma value?_signedDifference {a b : Term} {x y : Int} (ha : a.value? ρ = some x)
    (hb : b.value? ρ = some y) :
    (signedDifference a b s.sign).value? ρ = some ((x - y) * s.sign) := by
  cases s with
  | right | bottom =>
    refine combined_eq_some.2 ⟨x, y, ha, hb, (Int.mul_one (x - y)).symm⟩
  | left | top =>
    refine combined_eq_some.2 ⟨y, x, hb, ha, ?_⟩
    change y - x = (x - y) * -1
    ring

lemma of_ofSide (b : Box) (s : Side) : (Attribute.ofSide s).of b = b.edge s := by
  cases s <;> rfl

variable {boxes : Name → Option Box}

lemma value?_edgeTerm {name : Name} {b : Box} (h : boxes name.canonical = some b) :
    (edgeTerm name s).value? (Assignment.ofBoxes boxes) = some (b.edge s) := by
  refine Option.map_eq_some_iff.2 ⟨b, h, of_ofSide b s⟩

section Boxes

variable (hc : boxes p.component.canonical = some component)
variable (hp : boxes p.parent.canonical = some parent)

include hc hp

lemma value?_innerMember (limit : Side × Interval) :
    (Formula.within (signedDifference (edgeTerm p.parent limit.1) (edgeTerm p.component limit.1)
      limit.1.sign) limit.2).value? (Assignment.ofBoxes boxes) =
        some (limit.2.contains (padding component parent limit.1)) :=
  Option.bind_eq_some_iff.2
    ⟨_, value?_signedDifference (value?_edgeTerm hp) (value?_edgeTerm hc), rfl⟩

lemma value?_outerMember (limit : Side × Interval) :
    (Formula.within (signedDifference (edgeTerm p.component limit.1.opposite)
      (edgeTerm p.parent limit.1) limit.1.sign) limit.2).value? (Assignment.ofBoxes boxes) =
        some (limit.2.contains (margin component parent limit.1)) :=
  Option.bind_eq_some_iff.2
    ⟨_, value?_signedDifference (value?_edgeTerm hc) (value?_edgeTerm hp), rfl⟩

/-- The formula of a placement evaluates to the check of the two boxes. -/
theorem value?_toFormula :
    p.toFormula.value? (Assignment.ofBoxes boxes) = some (p.admits component parent) := by
  have members : Formula.values? (Assignment.ofBoxes boxes)
      ((p.inner.toList.map fun limit =>
        .within (signedDifference (edgeTerm p.parent limit.1) (edgeTerm p.component limit.1)
          limit.1.sign) limit.2)
      ++ p.outer.toList.map fun limit =>
        .within (signedDifference (edgeTerm p.component limit.1.opposite) (edgeTerm p.parent limit.1)
          limit.1.sign) limit.2) =
      ((p.inner.toList.map fun limit => limit.2.contains (padding component parent limit.1))
        ++ p.outer.toList.map fun limit =>
          limit.2.contains (margin component parent limit.1)).map some := by
    rw [Formula.values?_eq_map, List.map_append, List.map_append, List.map_map, List.map_map,
      List.map_map, List.map_map]
    exact congrArg₂ _ (List.map_congr_left fun limit _ => value?_innerMember hc hp limit)
      (List.map_congr_left fun limit _ => value?_outerMember hc hp limit)
  rw [toFormula, Formula.value?, members, Kleene.all_map_some, List.all_append, List.all_map,
    List.all_map]
  rfl

lemma knows_mentions : (Assignment.ofBoxes boxes).Knows p.mentions := by
  intro v mem
  obtain ⟨s, rfl | rfl⟩ := mem_mentions mem
  · exact ⟨component.edge s, value?_edgeTerm hc⟩
  · exact ⟨parent.edge s, value?_edgeTerm hp⟩

/-- The strict evaluation of the formula of a placement is the check of the two boxes. -/
lemma check_toFormula :
    p.toFormula.check (Assignment.ofBoxes boxes) = .ok (p.admits component parent) :=
  (strictValue_eq_ok (Assignment.Knows.sorted_iff.2 (knows_mentions hc hp))).2
    (value?_toFormula hc hp)

end Boxes

end Formula

/-- The three readings of a placement agree on every component and parent: the check of the two
boxes, the strict evaluation of the formula for the component as own box, and the region of the
parents. There is no region exactly if no box at all is admitted as parent. -/
theorem readings_agree (inner outer : SideMap) (implicitSides : Bool) (component : Box) :
    let p := ofSides inner outer implicitSides
    (∀ parent,
      let boxes := NameMap.ofList [(Name.own, component), (Name.parent, parent)]
      p.toFormula.check (Assignment.ofBoxes boxes.get?) = .ok (p.admits component parent) ∧
      (p.admits component parent = true ↔
        ∃ t, p.parentRegion? component = some t ∧ t.admits parent = true)) ∧
    (p.parentRegion? component = none ↔ ∀ parent, p.admits component parent = false) := by
  intro p
  refine ⟨fun parent => ⟨check_toFormula ?_ ?_, exists_parentRegion?_iff.symm⟩,
    parentRegion?_eq_none_iff⟩
  · have other : Name.own.canonical ≠ Name.parent := by decide
    exact NameMap.get?_insert_of_ne _ other parent
  · exact NameMap.get?_insert_self _ Name.parent parent

end Placement

end SpatialGrammar
