import SpatialGrammar.Plane.Region
import SpatialGrammar.Proofs.Plane.Box
import SpatialGrammar.Proofs.Plane.Interval

/-!
# The boxes of a region

Which boxes a region leaves possible once it is combined with another one. Main statements:
`exists_combine?_iff`, these are the boxes that both regions leave possible,
`exists_foldlM_combine?_iff` for several regions, and `exists_admits`, a region that comes from a
combination leaves some box possible.
-/

namespace SpatialGrammar

namespace Span

variable {s t u : Span} {start stop : Int}

lemma admits_iff : s.admits start stop = true ↔
    s.start.contains start = true ∧ s.stop.contains stop = true :=
  Bool.and_eq_true_iff

lemma admits_unbounded : unbounded.admits start stop = true := rfl

lemma isReversed_eq_false_iff : s.isReversed = false ↔
    ∀ a ∈ s.start.start, ∀ b ∈ s.stop.stop, a ≤ b := by
  unfold isReversed
  cases s.start.start <;> cases s.stop.stop <;> simp

/-- The certain part lies between the innermost ends, if these are in order. -/
lemma minimal?_eq_some : s.minimal? = some (start, stop) ↔
    s.start.stop = some start ∧ s.stop.start = some stop ∧ start ≤ stop := by
  simp only [minimal?, Option.bind_eq_bind, Option.bind_eq_some_iff,
    Option.ite_none_right_eq_some, Option.some.injEq, Prod.mk.injEq]
  constructor
  · rintro ⟨_, hstart, _, hstop, le, rfl, rfl⟩
    exact ⟨hstart, hstop, le⟩
  · rintro ⟨hstart, hstop, le⟩
    exact ⟨start, hstart, stop, hstop, le, rfl, rfl⟩

/-- The possible part lies between the outermost ends, whether or not these are in order. -/
lemma maximal?_eq_some : s.maximal? = some (start, stop) ↔
    s.start.start = some start ∧ s.stop.stop = some stop := by
  simp only [maximal?, Option.bind_eq_bind, Option.bind_eq_some_iff, Option.pure_def,
    Option.some.injEq, Prod.mk.injEq]
  constructor
  · rintro ⟨_, hstart, _, hstop, rfl, rfl⟩
    exact ⟨hstart, hstop⟩
  · rintro ⟨hstart, hstop⟩
    exact ⟨start, hstart, stop, hstop, rfl, rfl⟩

/-- Extents that are not reversed leave some extent possible whose ends are in order. -/
lemma exists_admits_of_isReversed (h : s.isReversed = false) :
    ∃ start stop, start ≤ stop ∧ s.admits start stop = true := by
  obtain ⟨m, hm⟩ := s.start.exists_contains
  obtain ⟨n, hn⟩ := s.stop.exists_contains
  rw [isReversed_eq_false_iff] at h
  obtain ⟨low, high⟩ := Interval.contains_iff.1 hm
  obtain ⟨low', high'⟩ := Interval.contains_iff.1 hn
  cases first : s.start.start with
  | none =>
    -- the start may lie as far down as one likes
    refine ⟨min m n, n, Int.min_le_right m n, admits_iff.2 ⟨?_, hn⟩⟩
    refine Interval.contains_iff.2 ⟨fun a ha => ?_, fun b hb => ?_⟩
    · rw [first] at ha
      cases ha
    · exact Int.le_trans (Int.min_le_left m n) (high b hb)
  | some a =>
    -- the earliest start lies before the latest stop
    refine ⟨a, max a n, Int.le_max_left a n, admits_iff.2 ⟨Interval.contains_start first, ?_⟩⟩
    refine Interval.contains_iff.2 ⟨fun b hb => ?_, fun b hb => ?_⟩
    · exact Int.le_trans (low' b hb) (Int.le_max_right a n)
    · exact Int.max_le.2 ⟨h a first b hb, high' b hb⟩

lemma combine?_eq_some : s.combine? t = some u ↔
    s.start.inter? t.start = some u.start ∧ s.stop.inter? t.stop = some u.stop ∧
      u.isReversed = false := by
  simp only [combine?, Option.bind_eq_bind, Option.bind_eq_some_iff,
    Option.ite_none_left_eq_some, Option.some.injEq, Bool.not_eq_true]
  constructor
  · rintro ⟨start, hstart, stop, hstop, ordered, rfl⟩
    exact ⟨hstart, hstop, ordered⟩
  · rintro ⟨hstart, hstop, ordered⟩
    exact ⟨u.start, hstart, u.stop, hstop, ordered, rfl⟩

/-- What is left of two extents are the extents that both leave possible. -/
lemma exists_combine?_iff (le : start ≤ stop) :
    (∃ u, s.combine? t = some u ∧ u.admits start stop = true) ↔
      s.admits start stop = true ∧ t.admits start stop = true := by
  simp only [admits_iff, combine?_eq_some]
  constructor
  · rintro ⟨u, ⟨hstart, hstop, -⟩, at_start, at_stop⟩
    obtain ⟨left, right⟩ := (Interval.contains_of_inter? hstart).1 at_start
    obtain ⟨left', right'⟩ := (Interval.contains_of_inter? hstop).1 at_stop
    exact ⟨⟨left, left'⟩, right, right'⟩
  · intro ⟨⟨left, left'⟩, right, right'⟩
    obtain ⟨i, hi, at_start⟩ := Interval.exists_inter?_iff.2 ⟨left, right⟩
    obtain ⟨j, hj, at_stop⟩ := Interval.exists_inter?_iff.2 ⟨left', right'⟩
    refine ⟨⟨i, j⟩, ⟨hi, hj, isReversed_eq_false_iff.2 fun a ha b hb => ?_⟩, at_start, at_stop⟩
    exact ((Interval.contains_iff.1 at_start).1 a ha).trans
      (le.trans ((Interval.contains_iff.1 at_stop).2 b hb))

end Span

namespace Region

variable {r s t : Region} {b c : Box}

lemma admits_iff : r.admits b = true ↔
    r.horizontal.admits b.left b.right = true ∧ r.vertical.admits b.top b.bottom = true :=
  Bool.and_eq_true_iff

lemma admits_unbounded : unbounded.admits b = true := rfl

lemma combine?_eq_some : r.combine? s = some t ↔
    r.horizontal.combine? s.horizontal = some t.horizontal ∧
      r.vertical.combine? s.vertical = some t.vertical := by
  simp only [combine?, Option.bind_eq_bind, Option.bind_eq_some_iff, Option.pure_def,
    Option.some.injEq]
  constructor
  · rintro ⟨horizontal, across, vertical, down, rfl⟩
    exact ⟨across, down⟩
  · rintro ⟨across, down⟩
    exact ⟨t.horizontal, across, t.vertical, down, rfl⟩

lemma mayContain_iff : r.mayContain b = true ↔
    (∀ l ∈ r.left.start, l ≤ b.left) ∧ (∀ t ∈ r.top.start, t ≤ b.top) ∧
      (∀ e ∈ r.right.stop, b.right ≤ e) ∧ ∀ e ∈ r.bottom.stop, b.bottom ≤ e := by
  simp only [mayContain, Bool.and_eq_true, Option.all_eq_true, decide_eq_true_eq, and_assoc,
    Option.mem_def]

/-- A box is made of an extent for each axis, if both are there. -/
lemma bind_ofEdges_eq_some {across down : Option (Int × Int)} :
    (do
      let (left, right) ← across
      let (top, bottom) ← down
      return Box.ofEdges left top right bottom) = some b ↔
    ∃ left top right bottom, across = some (left, right) ∧ down = some (top, bottom) ∧
      Box.ofEdges left top right bottom = b := by
  simp only [Option.bind_eq_bind, Option.bind_eq_some_iff, Option.pure_def, Option.some.injEq,
    Prod.exists]
  constructor
  · rintro ⟨left, right, hacross, top, bottom, hdown, eq⟩
    exact ⟨left, top, right, bottom, hacross, hdown, eq⟩
  · rintro ⟨left, top, right, bottom, hacross, hdown, eq⟩
    exact ⟨left, right, hacross, top, bottom, hdown, eq⟩

lemma minimal?_eq_some : r.minimal? = some b ↔ ∃ left top right bottom,
    r.horizontal.minimal? = some (left, right) ∧ r.vertical.minimal? = some (top, bottom) ∧
      Box.ofEdges left top right bottom = b :=
  bind_ofEdges_eq_some

lemma maximal?_eq_some : r.maximal? = some b ↔ ∃ left top right bottom,
    r.horizontal.maximal? = some (left, right) ∧ r.vertical.maximal? = some (top, bottom) ∧
      Box.ofEdges left top right bottom = b :=
  bind_ofEdges_eq_some

/-- A box with grid points that may lie in a region begins in what the region may cover. -/
lemma containsPoint_corner {extent : Box} (known : r.maximal? = some extent)
    (filled : b.isEmpty = false) (h : r.mayContain b = true) :
    extent.containsPoint b.corner = true := by
  obtain ⟨left, top, right, bottom, across, down, rfl⟩ := maximal?_eq_some.1 known
  obtain ⟨hl, hr⟩ := Span.maximal?_eq_some.1 across
  obtain ⟨ht, hb⟩ := Span.maximal?_eq_some.1 down
  obtain ⟨from_left, from_top, to_right, to_bottom⟩ := mayContain_iff.1 h
  have start := from_left left hl
  have start' := from_top top ht
  have stop := to_right right hr
  have stop' := to_bottom bottom hb
  have own := Box.containsPoint_iff.1 (Box.containsPoint_corner filled)
  dsimp only [Box.corner] at own
  rw [Box.containsPoint_iff, Box.right_ofEdges (by omega), Box.bottom_ofEdges (by omega)]
  dsimp only [Box.ofEdges, Box.ofSizes, Box.corner]
  omega

/-- The least box around two boxes lies within the outermost edges if both of them do. -/
lemma mayContain_join (hb : r.mayContain b = true) (hc : r.mayContain c = true) :
    r.mayContain (Box.join b c) = true := by
  obtain ⟨left, top, right, bottom⟩ := mayContain_iff.1 hb
  obtain ⟨left', top', right', bottom'⟩ := mayContain_iff.1 hc
  rw [mayContain_iff, Box.right_join, Box.bottom_join]
  exact ⟨fun l hl => le_min (left l hl) (left' l hl), fun t ht => le_min (top t ht) (top' t ht),
    fun e he => max_le (right e he) (right' e he), fun e he => max_le (bottom e he) (bottom' e he)⟩

/-- The least box around some boxes lies within the outermost edges if all of them do. -/
lemma mayContain_hull {bs : List Box} (hull : Box.hull? bs = some b)
    (within : ∀ c ∈ bs, r.mayContain c = true) : r.mayContain b = true := by
  have all : ∀ bs : List Box, ∀ c : Box, r.mayContain c = true →
      (∀ d ∈ bs, r.mayContain d = true) → r.mayContain (bs.foldl Box.join c) = true := by
    intro bs
    induction bs with
    | nil => exact fun c hc _ => hc
    | cons d bs ih =>
      intro c hc rest
      obtain ⟨hd, rest⟩ := List.forall_mem_cons.1 rest
      exact ih _ (mayContain_join hc hd) rest
  cases bs with
  | nil => cases hull
  | cons c bs =>
    obtain ⟨hc, rest⟩ := List.forall_mem_cons.1 within
    exact Option.some.inj hull ▸ all bs c hc rest

/-- What is left of two regions are the boxes that both leave possible. -/
theorem exists_combine?_iff : (∃ t, r.combine? s = some t ∧ t.admits b = true) ↔
    r.admits b = true ∧ s.admits b = true := by
  have across := Span.exists_combine?_iff b.left_le_right (s := r.horizontal) (t := s.horizontal)
  have down := Span.exists_combine?_iff b.top_le_bottom (s := r.vertical) (t := s.vertical)
  rw [admits_iff, admits_iff, and_and_and_comm, ← across, ← down]
  simp only [combine?_eq_some, admits_iff]
  constructor
  · rintro ⟨t, ⟨h, v⟩, at_h, at_v⟩
    exact ⟨⟨t.horizontal, h, at_h⟩, t.vertical, v, at_v⟩
  · rintro ⟨⟨h, eq, at_h⟩, v, eq', at_v⟩
    exact ⟨⟨h, v⟩, ⟨eq, eq'⟩, at_h, at_v⟩

/-- What is left after combining with several regions, one after the other, are the boxes that all
of them leave possible. -/
theorem exists_foldlM_combine?_iff {β : Type} {f : β → Option Region} {xs : List β} :
    (∃ t, xs.foldlM (fun r x => do r.combine? (← f x)) r = some t ∧ t.admits b = true) ↔
      r.admits b = true ∧ ∀ x ∈ xs, ∃ s, f x = some s ∧ s.admits b = true := by
  induction xs generalizing r with
  | nil => simp
  | cons x xs ih =>
    simp only [List.foldlM_cons, Option.bind_eq_bind, Option.bind_eq_some_iff,
      List.forall_mem_cons] at ih ⊢
    constructor
    · rintro ⟨t, ⟨u, ⟨s, hs, combined⟩, rest⟩, admitted⟩
      obtain ⟨here, later⟩ := ih.1 ⟨t, rest, admitted⟩
      obtain ⟨before, also⟩ := exists_combine?_iff.1 ⟨u, combined, here⟩
      exact ⟨before, ⟨s, hs, also⟩, later⟩
    · rintro ⟨before, ⟨s, hs, also⟩, later⟩
      obtain ⟨u, combined, here⟩ := exists_combine?_iff.2 ⟨before, also⟩
      obtain ⟨t, rest, admitted⟩ := ih.2 ⟨here, later⟩
      exact ⟨t, ⟨u, ⟨s, hs, combined⟩, rest⟩, admitted⟩

/-- A region that comes from a combination leaves some box possible. -/
theorem exists_admits (h : r.combine? s = some t) : ∃ b, t.admits b = true := by
  obtain ⟨across, down⟩ := combine?_eq_some.1 h
  obtain ⟨left, right, le, h⟩ :=
    Span.exists_admits_of_isReversed (Span.combine?_eq_some.1 across).2.2
  obtain ⟨top, bottom, le', v⟩ :=
    Span.exists_admits_of_isReversed (Span.combine?_eq_some.1 down).2.2
  refine ⟨Box.ofEdges left top right bottom, admits_iff.2 ?_⟩
  rw [Box.right_ofEdges le, Box.bottom_ofEdges le']
  exact ⟨h, v⟩

end Region

end SpatialGrammar
