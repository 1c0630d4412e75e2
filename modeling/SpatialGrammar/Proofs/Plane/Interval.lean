import Mathlib.Algebra.Order.Group.Unbundled.Int
import SpatialGrammar.Plane.Interval

/-!
# The members of intervals

What the operations on intervals do to their members. Main statements: `exists_inter?_iff`, the
common part of two intervals has their common members, `contains_shift` and `contains_neg`,
`exists_contains_le_iff` and its companions, which tell the ends of an interval from its members, and
`eq_of_contains`, an interval is known by its members.
-/

namespace SpatialGrammar.Interval

variable {r s t : Interval} {n : Int}

@[simp] lemma contains_unbounded : unbounded.contains n = true := rfl

lemma contains_start (h : r.start = some n) : r.contains n = true := by
  refine contains_iff.2 ⟨fun a ha => ?_, fun b hb => r.start_le_stop h hb⟩
  rw [h, Option.mem_some_iff] at ha
  exact ha ▸ le_rfl

/-- No interval is empty. -/
lemma exists_contains (r : Interval) : ∃ n, r.contains n = true := by
  cases start : r.start with
  | some a => exact ⟨a, contains_start start⟩
  | none =>
    refine ⟨r.stop.getD 0, contains_iff.2 ⟨fun b hb => ?_, fun b hb => ?_⟩⟩
    · rw [start] at hb
      cases hb
    · exact Int.le_of_eq (by rw [Option.mem_def.1 hb, Option.getD_some])

lemma contains_shift {k : Int} : (r.shift k).contains n = true ↔ r.contains (n - k) = true := by
  simp only [contains_iff, shift, Option.mem_def, Option.map_eq_some_iff]
  constructor
  · intro ⟨low, high⟩
    refine ⟨fun a ha => ?_, fun b hb => ?_⟩
    · have := low (a + k) ⟨a, ha, rfl⟩
      omega
    · have := high (b + k) ⟨b, hb, rfl⟩
      omega
  · intro ⟨low, high⟩
    refine ⟨fun _ ⟨a, ha, eq⟩ => ?_, fun _ ⟨b, hb, eq⟩ => ?_⟩
    · have := low a ha
      omega
    · have := high b hb
      omega

lemma contains_neg : (-r).contains n = true ↔ r.contains (-n) = true := by
  rw [show -r = Interval.neg r from rfl]
  simp only [contains_iff, Interval.neg, Option.mem_def, Option.map_eq_some_iff]
  constructor
  · intro ⟨low, high⟩
    refine ⟨fun a ha => ?_, fun b hb => ?_⟩
    · have := high (-a) ⟨a, ha, rfl⟩
      omega
    · have := low (-b) ⟨b, hb, rfl⟩
      omega
  · intro ⟨low, high⟩
    refine ⟨fun _ ⟨b, hb, eq⟩ => ?_, fun _ ⟨a, ha, eq⟩ => ?_⟩
    · have := high b hb
      omega
    · have := low a ha
      omega

/-- The start of an interval is its least member. -/
lemma start_eq_some_iff :
    r.start = some n ↔ r.contains n = true ∧ ∀ m, r.contains m = true → n ≤ m := by
  constructor
  · exact fun start => ⟨contains_start start, fun m hm => (contains_iff.1 hm).1 n start⟩
  · intro ⟨mem, least⟩
    obtain ⟨low, high⟩ := contains_iff.1 mem
    cases start : r.start with
    | none =>
      -- without a start there is a smaller member
      have smaller : r.contains (n - 1) = true := by
        refine contains_iff.2 ⟨fun a ha => ?_, fun b hb => ?_⟩
        · rw [start] at ha
          cases ha
        · have := high b hb
          omega
      have := least (n - 1) smaller
      omega
    | some a => exact congrArg some (le_antisymm (low a start) (least a (contains_start start)))

/-- The stop of an interval is its greatest member. -/
lemma stop_eq_some_iff :
    r.stop = some n ↔ r.contains n = true ∧ ∀ m, r.contains m = true → m ≤ n := by
  have negated : r.stop = some n ↔ (-r).start = some (-n) := by
    rw [show -r = Interval.neg r from rfl]
    simp [Interval.neg]
  rw [negated, start_eq_some_iff, contains_neg, neg_neg]
  refine and_congr_right fun _ => ⟨fun least m hm => ?_, fun greatest m hm => ?_⟩
  · have := least (-m) (contains_neg.2 (by rwa [neg_neg]))
    omega
  · have := greatest (-m) (contains_neg.1 hm)
    omega

/-- A member can be moved down as far as another one lies. -/
lemma contains_min {k m : Int} (hm : r.contains m = true) (hk : r.contains k = true) (le : k ≤ n) :
    r.contains (min m n) = true := by
  obtain ⟨low, high⟩ := contains_iff.1 hm
  obtain ⟨low', -⟩ := contains_iff.1 hk
  exact contains_iff.2 ⟨fun a ha => le_min (low a ha) ((low' a ha).trans le),
    fun b hb => (min_le_left m n).trans (high b hb)⟩

/-- A member can be moved up as far as another one lies. -/
lemma contains_max {k m : Int} (hm : r.contains m = true) (hk : r.contains k = true) (le : n ≤ k) :
    r.contains (max m n) = true := by
  obtain ⟨low, high⟩ := contains_iff.1 hm
  obtain ⟨-, high'⟩ := contains_iff.1 hk
  exact contains_iff.2 ⟨fun a ha => (low a ha).trans (le_max_left m n),
    fun b hb => max_le (high b hb) (le.trans (high' b hb))⟩

/-- An interval has a member up to a number unless it starts beyond it. -/
lemma exists_contains_le_iff :
    (∃ m, r.contains m = true ∧ m ≤ n) ↔ ∀ a ∈ r.start, a ≤ n := by
  constructor
  · rintro ⟨m, mem, le⟩ a ha
    exact ((contains_iff.1 mem).1 a ha).trans le
  · intro low
    cases start : r.start with
    | some a => exact ⟨a, contains_start start, low a start⟩
    | none =>
      -- without a start any member can be moved down
      obtain ⟨m, mem⟩ := r.exists_contains
      refine ⟨min m n, contains_iff.2 ⟨fun a ha => ?_, fun b hb => ?_⟩, min_le_right m n⟩
      · rw [start] at ha
        cases ha
      · exact (min_le_left m n).trans ((contains_iff.1 mem).2 b hb)

/-- An interval has a member from a number on unless it stops before it. -/
lemma exists_le_contains_iff :
    (∃ m, r.contains m = true ∧ n ≤ m) ↔ ∀ b ∈ r.stop, n ≤ b := by
  calc
    (∃ m, r.contains m = true ∧ n ≤ m) ↔ ∃ m, (-r).contains m = true ∧ m ≤ -n := by
      constructor
      · rintro ⟨m, mem, le⟩
        exact ⟨-m, contains_neg.2 (by rwa [neg_neg]), Int.neg_le_neg le⟩
      · rintro ⟨m, mem, le⟩
        exact ⟨-m, contains_neg.1 mem, Int.le_neg_of_le_neg le⟩
    _ ↔ ∀ a ∈ (-r).start, a ≤ -n := exists_contains_le_iff
    _ ↔ ∀ b ∈ r.stop, n ≤ b := by
      rw [show -r = Interval.neg r from rfl]
      simp [Interval.neg]

/-- An interval starts at a number or beyond it if all of its members lie there. -/
lemma exists_le_start_iff :
    (∃ a ∈ r.start, n ≤ a) ↔ ∀ m, r.contains m = true → n ≤ m := by
  have below := not_congr (exists_contains_le_iff (r := r) (n := n - 1))
  push Not at below
  simpa only [Int.sub_one_lt_iff] using below.symm

/-- An interval stops at a number or before it if all of its members lie there. -/
lemma exists_stop_le_iff :
    (∃ b ∈ r.stop, b ≤ n) ↔ ∀ m, r.contains m = true → m ≤ n := by
  have above := not_congr (exists_le_contains_iff (r := r) (n := n + 1))
  push Not at above
  simpa only [Int.lt_add_one_iff] using above.symm

/-- An interval is known by its members. -/
lemma eq_of_contains (h : ∀ n, r.contains n = true ↔ s.contains n = true) : r = s := by
  have start : r.start = s.start := Option.ext fun a => by
    simp only [start_eq_some_iff, h]
  have stop : r.stop = s.stop := Option.ext fun b => by
    simp only [stop_eq_some_iff, h]
  cases r
  cases s
  cases start
  cases stop
  rfl

/-- The interval between two ends exists if there is a number between them. -/
lemma exists_ofEnds?_iff {start stop : Option Int} :
    (∃ t, ofEnds? start stop = some t ∧ t.contains n = true) ↔
      (∀ a ∈ start, a ≤ n) ∧ ∀ b ∈ stop, n ≤ b := by
  cases start with
  | none =>
    cases stop with
    | none => simp [ofEnds?, ofEnds, Except.toOption]
    | some b => simp [ofEnds?, ofEnds, Except.toOption, contains_iff, atMost]
  | some a =>
    cases stop with
    | none => simp [ofEnds?, ofEnds, Except.toOption, contains_iff, atLeast]
    | some b =>
      by_cases ordered : a ≤ b
      · simp [ofEnds?, ofEnds, Except.toOption, contains_iff, ordered]
      · have between : ¬ (a ≤ n ∧ n ≤ b) := by omega
        simpa [ofEnds?, ofEnds, Except.toOption, ordered] using between

lemma forall_mem_merge_max {x y : Option Int} :
    (∀ a ∈ Option.merge max x y, a ≤ n) ↔ (∀ a ∈ x, a ≤ n) ∧ ∀ a ∈ y, a ≤ n := by
  cases x <;> cases y <;> simp [Option.merge]

lemma forall_mem_merge_min {x y : Option Int} :
    (∀ b ∈ Option.merge min x y, n ≤ b) ↔ (∀ b ∈ x, n ≤ b) ∧ ∀ b ∈ y, n ≤ b := by
  cases x <;> cases y <;> simp [Option.merge]

/-- The common part of two intervals has their common members, and exists if there are any. -/
theorem exists_inter?_iff : (∃ t, r.inter? s = some t ∧ t.contains n = true) ↔
    r.contains n = true ∧ s.contains n = true := by
  rw [inter?, exists_ofEnds?_iff, forall_mem_merge_max, forall_mem_merge_min, contains_iff,
    contains_iff]
  exact and_and_and_comm

lemma contains_of_inter? (h : r.inter? s = some t) :
    t.contains n = true ↔ r.contains n = true ∧ s.contains n = true := by
  rw [← exists_inter?_iff, h]
  simp

end SpatialGrammar.Interval
