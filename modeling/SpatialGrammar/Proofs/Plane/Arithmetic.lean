import Mathlib.Algebra.Group.Pointwise.Set.Basic
import SpatialGrammar.Proofs.Plane.Interval

/-!
# The arithmetic of intervals

The operations on intervals are operations on sets of integers. Main statements:
`exists_common_iff`, two intervals have a common member unless one of them starts beyond the stop of
the other one, `hull_subset_iff`, the hull is the least interval around two intervals, and
`operations_exact`, every operation gives an interval with exactly the right members.
-/

namespace SpatialGrammar.Interval

open scoped Pointwise

variable {r s t : Interval} {n : Int}

/-- The numbers that lie in an interval. -/
def members (r : Interval) : Set Int := {n | r.contains n = true}

lemma mem_members : n ∈ r.members ↔ r.contains n = true := Iff.rfl

section common

lemma exists_ofEnds?_iff_le {start stop : Option Int} :
    (∃ t, ofEnds? start stop = some t) ↔ ∀ a ∈ start, ∀ b ∈ stop, a ≤ b := by
  cases start with
  | none => cases stop <;> simp [ofEnds?, ofEnds, Except.toOption]
  | some a =>
    cases stop with
    | none => simp [ofEnds?, ofEnds, Except.toOption]
    | some b =>
      by_cases ordered : a ≤ b <;> simp [ofEnds?, ofEnds, Except.toOption, ordered]

lemma members_inter? (h : r.inter? s = some t) : t.members = r.members ∩ s.members :=
  Set.ext fun _ => contains_of_inter? h

/-- Two intervals have a common part if they have a common member. -/
lemma exists_inter?_eq_some_iff :
    (∃ t, r.inter? s = some t) ↔ ∃ n, r.contains n = true ∧ s.contains n = true := by
  constructor
  · rintro ⟨t, h⟩
    obtain ⟨n, mem⟩ := t.exists_contains
    exact ⟨n, (contains_of_inter? h).1 mem⟩
  · rintro ⟨n, common⟩
    obtain ⟨t, h, -⟩ := exists_inter?_iff.2 common
    exact ⟨t, h⟩

lemma inter?_eq_none_iff : r.inter? s = none ↔ r.members ∩ s.members = ∅ := by
  rw [← Set.not_nonempty_iff_eq_empty, Option.eq_none_iff_forall_ne_some, ← not_exists]
  exact not_congr exists_inter?_eq_some_iff

/-- Two intervals have a common member unless one of them starts beyond the stop of the other. -/
lemma exists_common_iff : (∃ n, r.contains n = true ∧ s.contains n = true) ↔
    (∀ a ∈ r.start, ∀ b ∈ s.stop, a ≤ b) ∧ ∀ a ∈ s.start, ∀ b ∈ r.stop, a ≤ b := by
  constructor
  · rintro ⟨n, hr, hs⟩
    obtain ⟨low, high⟩ := contains_iff.1 hr
    obtain ⟨low', high'⟩ := contains_iff.1 hs
    exact ⟨fun a ha b hb => (low a ha).trans (high' b hb),
      fun a ha b hb => (low' a ha).trans (high b hb)⟩
  · rintro ⟨before, behind⟩
    rw [← exists_inter?_eq_some_iff, inter?, exists_ofEnds?_iff_le]
    -- each of the two starts lies before each of the two stops
    intro a ha
    refine forall_mem_merge_min.2 ⟨fun b hb => ?_, fun b hb => ?_⟩
    · exact forall_mem_merge_max.2 ⟨fun a ha => r.ordered a ha b hb,
        fun a ha => behind a ha b hb⟩ a ha
    · exact forall_mem_merge_max.2 ⟨fun a ha => before a ha b hb,
        fun a ha => s.ordered a ha b hb⟩ a ha

end common

section hull

/-- An interval holds the members of another one if its ends lie no further in. -/
lemma members_subset_iff : s.members ⊆ t.members ↔
    (∀ a ∈ t.start, ∃ c ∈ s.start, a ≤ c) ∧ ∀ b ∈ t.stop, ∃ c ∈ s.stop, c ≤ b := by
  simp only [exists_le_start_iff, exists_stop_le_iff, Set.subset_def, mem_members, contains_iff]
  constructor
  · intro inside
    exact ⟨fun a ha n hn => (inside n hn).1 a ha, fun b hb n hn => (inside n hn).2 b hb⟩
  · rintro ⟨low, high⟩ n hn
    exact ⟨fun a ha => low a ha n hn, fun b hb => high b hb n hn⟩

lemma exists_le_hull_start_iff : (∃ c ∈ (hull r s).start, n ≤ c) ↔
    (∃ a ∈ r.start, n ≤ a) ∧ ∃ b ∈ s.start, n ≤ b := by
  have least {c : Int} : c ∈ (hull r s).start ↔ ∃ a ∈ r.start, ∃ b ∈ s.start, min a b = c := by
    simp [hull, Option.bind_eq_some_iff]
  simp only [least]
  constructor
  · rintro ⟨_, ⟨a, ha, b, hb, rfl⟩, le⟩
    exact ⟨⟨a, ha, le.trans (min_le_left a b)⟩, b, hb, le.trans (min_le_right a b)⟩
  · rintro ⟨⟨a, ha, le⟩, b, hb, le'⟩
    exact ⟨_, ⟨a, ha, b, hb, rfl⟩, le_min le le'⟩

lemma exists_hull_stop_le_iff : (∃ c ∈ (hull r s).stop, c ≤ n) ↔
    (∃ a ∈ r.stop, a ≤ n) ∧ ∃ b ∈ s.stop, b ≤ n := by
  have greatest {c : Int} : c ∈ (hull r s).stop ↔ ∃ a ∈ r.stop, ∃ b ∈ s.stop, max a b = c := by
    simp [hull, Option.bind_eq_some_iff]
  simp only [greatest]
  constructor
  · rintro ⟨_, ⟨a, ha, b, hb, rfl⟩, le⟩
    exact ⟨⟨a, ha, (le_max_left a b).trans le⟩, b, hb, (le_max_right a b).trans le⟩
  · rintro ⟨⟨a, ha, le⟩, b, hb, le'⟩
    exact ⟨_, ⟨a, ha, b, hb, rfl⟩, max_le le le'⟩

/-- The hull lies within exactly those intervals that hold the members of both intervals. -/
lemma hull_subset_iff : (hull r s).members ⊆ t.members ↔ r.members ∪ s.members ⊆ t.members := by
  rw [Set.union_subset_iff]
  simp only [members_subset_iff, exists_le_hull_start_iff, exists_hull_stop_le_iff]
  constructor
  · rintro ⟨low, high⟩
    exact ⟨⟨fun n hn => (low n hn).1, fun n hn => (high n hn).1⟩,
      fun n hn => (low n hn).2, fun n hn => (high n hn).2⟩
  · rintro ⟨⟨low, high⟩, low', high'⟩
    exact ⟨fun n hn => ⟨low n hn, low' n hn⟩, fun n hn => ⟨high n hn, high' n hn⟩⟩

end hull

section sums

lemma members_shift (r : Interval) (k : Int) : (r.shift k).members = (· + k) '' r.members := by
  ext n
  rw [mem_members, contains_shift]
  constructor
  · exact fun mem => ⟨n - k, mem, Int.sub_add_cancel n k⟩
  · rintro ⟨m, mem, rfl⟩
    rwa [Int.add_sub_cancel]

lemma members_neg (r : Interval) : (-r).members = -r.members :=
  Set.ext fun _ => contains_neg

lemma mem_add_start : n ∈ (r + s).start ↔ ∃ a ∈ r.start, ∃ b ∈ s.start, a + b = n := by
  rw [show r + s = Interval.add r s from rfl]
  simp [Interval.add, Option.bind_eq_some_iff]

lemma mem_add_stop : n ∈ (r + s).stop ↔ ∃ a ∈ r.stop, ∃ b ∈ s.stop, a + b = n := by
  rw [show r + s = Interval.add r s from rfl]
  simp [Interval.add, Option.bind_eq_some_iff]

/-- A number minus the members of an interval. -/
def reflect (r : Interval) (n : Int) : Interval := (-r).shift n

lemma contains_reflect {m : Int} : (r.reflect n).contains m = true ↔ r.contains (n - m) = true := by
  rw [reflect, contains_shift, contains_neg, Int.neg_sub]

lemma mem_reflect_start {m : Int} : m ∈ (r.reflect n).start ↔ ∃ b ∈ r.stop, n - b = m := by
  rw [reflect, show -r = Interval.neg r from rfl]
  simp [shift, Interval.neg, Option.map_eq_some_iff, Int.sub_eq_add_neg, Int.add_comm]

lemma mem_reflect_stop {m : Int} : m ∈ (r.reflect n).stop ↔ ∃ a ∈ r.start, n - a = m := by
  rw [reflect, show -r = Interval.neg r from rfl]
  simp [shift, Interval.neg, Option.map_eq_some_iff, Int.sub_eq_add_neg, Int.add_comm]

/-- The sums of members reach every number between the sums of the ends: what has to be added to a
member of one interval lies in the other one if the first one meets the reflection of the other. -/
lemma members_add (r s : Interval) : (r + s).members = r.members + s.members := by
  ext n
  have meets : n ∈ r.members + s.members ↔
      ∃ m, r.contains m = true ∧ (s.reflect n).contains m = true := by
    simp only [contains_reflect, Set.mem_add, mem_members]
    constructor
    · rintro ⟨m, hm, k, hk, rfl⟩
      exact ⟨m, hm, by rwa [add_sub_cancel_left]⟩
    · rintro ⟨m, hm, hk⟩
      exact ⟨m, hm, n - m, hk, add_sub_cancel m n⟩
  rw [meets, exists_common_iff, mem_members, contains_iff]
  simp only [mem_add_start, mem_add_stop, mem_reflect_start, mem_reflect_stop]
  constructor
  · rintro ⟨low, high⟩
    refine ⟨fun a ha _ ⟨b, hb, eq⟩ => ?_, fun _ ⟨b, hb, eq⟩ a ha => ?_⟩
    · have := low (a + b) ⟨a, ha, b, hb, rfl⟩
      omega
    · have := high (a + b) ⟨a, ha, b, hb, rfl⟩
      omega
  · rintro ⟨low, high⟩
    refine ⟨fun _ ⟨a, ha, b, hb, eq⟩ => ?_, fun _ ⟨a, ha, b, hb, eq⟩ => ?_⟩
    · have := low a ha (n - b) ⟨b, hb, rfl⟩
      omega
    · have := high (n - b) ⟨b, hb, rfl⟩ a ha
      omega

lemma members_sub (r s : Interval) : (r - s).members = r.members - s.members := by
  rw [show r - s = r + -s from rfl, members_add, members_neg, sub_eq_add_neg]

end sums

/-- The operations on intervals are exact. The common part of two intervals has their common members
and is missing if there are none; the hull is the least interval with the members of both; the
members of the other results are the moved members, the sums, the negated members and the
differences. In every result the start is not beyond the stop. -/
theorem operations_exact (r s : Interval) (k : Int) :
    (∀ t, r.inter? s = some t → t.members = r.members ∩ s.members) ∧
    (r.inter? s = none ↔ r.members ∩ s.members = ∅) ∧
    (∀ t : Interval, (hull r s).members ⊆ t.members ↔ r.members ∪ s.members ⊆ t.members) ∧
    (r.shift k).members = (· + k) '' r.members ∧
    (r + s).members = r.members + s.members ∧
    (-r).members = -r.members ∧
    (r - s).members = r.members - s.members ∧
    ∀ t ∈ (r.inter? s).toList ++ [hull r s, r.shift k, r + s, -r, r - s],
      ∀ a ∈ t.start, ∀ b ∈ t.stop, a ≤ b := by
  exact ⟨fun _ => members_inter?, inter?_eq_none_iff, fun _ => hull_subset_iff,
    members_shift r k, members_add r s, members_neg r, members_sub r s, fun t _ => t.ordered⟩

/-- The numbers from two up and those from minus one to five have the numbers from two to five in
common; the numbers up to one and those from two up have none. -/
theorem operations_exact_overlap :
    let r := atLeast 2
    let s : Interval := ⟨some (-1), some 5, by decide⟩
    let t : Interval := ⟨some 2, some 5, by decide⟩
    r.inter? s = some t ∧ t.members = r.members ∩ s.members ∧
      (2 : Int) ∈ t.start ∧ (5 : Int) ∈ t.stop ∧ (2 : Int) ≤ 5 ∧
      (r + s).start = some 1 ∧ (r + s).stop = none ∧ (r + s).members = r.members + s.members ∧
      (atMost 1).inter? r = none ∧ (atMost 1).members ∩ r.members = ∅ := by
  intro r s t
  have common : r.inter? s = some t := by decide
  obtain ⟨members, -, -, -, sums, -, -, ordered⟩ := operations_exact r s 0
  obtain ⟨-, disjoint, -⟩ := operations_exact (atMost 1) r 0
  have nothing : (atMost 1).inter? r = none := by decide
  have listed : t ∈ (r.inter? s).toList ++ [hull r s, r.shift 0, r + s, -r, r - s] := by
    rw [common]
    exact List.mem_cons_self
  exact ⟨common, members t common, rfl, rfl, ordered t listed 2 rfl 5 rfl, rfl, rfl, sums,
    nothing, disjoint.1 nothing⟩

end SpatialGrammar.Interval
