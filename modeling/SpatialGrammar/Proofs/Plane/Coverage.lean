import SpatialGrammar.Constraint.Error
import SpatialGrammar.Plane.Workings
import SpatialGrammar.Proofs.Plane.Region

/-!
# What a region covers

The outermost edges of a region bound what its boxes may cover, the innermost edges what all of them
cover. Main statements: `containment_exact`, a box may lie in a region if some possible box encloses
it, and does so for certain if all of them do, and `extents_nest`, combining two regions widens what
is certain and narrows what is possible.
-/

namespace SpatialGrammar

namespace Span

variable {s t u : Span} {a b low high start stop : Int}

/-- The outermost ends do not keep an extent from reaching from `a` to `b`. -/
def MayCover (s : Span) (a b : Int) : Prop :=
  (∀ low ∈ s.start.start, low ≤ a) ∧ ∀ high ∈ s.stop.stop, b ≤ high

/-- The innermost ends are known and in order, and lie around `a` and `b`. -/
def SurelyCovers (s : Span) (a b : Int) : Prop :=
  ∃ low high, s.minimal? = some (low, high) ∧ low ≤ a ∧ b ≤ high

lemma mayCover_iff : s.MayCover a b ↔
    ∃ start stop, s.admits start stop = true ∧ start ≤ a ∧ b ≤ stop := by
  simp only [MayCover, ← Interval.exists_contains_le_iff, ← Interval.exists_le_contains_iff,
    admits_iff]
  constructor
  · rintro ⟨⟨start, hstart, le⟩, stop, hstop, le'⟩
    exact ⟨start, stop, ⟨hstart, hstop⟩, le, le'⟩
  · rintro ⟨start, stop, ⟨hstart, hstop⟩, le, le'⟩
    exact ⟨⟨start, hstart, le⟩, stop, hstop, le'⟩

/-- Every possible extent reaches across what is covered for certain. -/
lemma SurelyCovers.le (h : s.SurelyCovers a b) (possible : s.admits start stop = true) :
    start ≤ a ∧ b ≤ stop := by
  obtain ⟨low, high, innermost, le, le'⟩ := h
  obtain ⟨hlow, hhigh, -⟩ := minimal?_eq_some.1 innermost
  obtain ⟨hstart, hstop⟩ := admits_iff.1 possible
  exact ⟨((Interval.contains_iff.1 hstart).2 low hlow).trans le,
    le'.trans ((Interval.contains_iff.1 hstop).1 high hhigh)⟩

/-- What every possible extent with ordered ends reaches across is covered for certain. -/
lemma surelyCovers_of_forall (possible : s.admits start stop = true) (ordered : start ≤ stop)
    (lt : a < b) (all : ∀ m n, m ≤ n → s.admits m n = true → m ≤ a ∧ b ≤ n) :
    s.SurelyCovers a b := by
  obtain ⟨hstart, hstop⟩ := admits_iff.1 possible
  -- a start beyond the stop begins no extent, but could be moved back to where it stops
  have starts : ∀ m, s.start.contains m = true → m ≤ a := by
    intro m hm
    have near := Interval.contains_min hm hstart ordered
    have := all (min m stop) stop (min_le_right m stop) (admits_iff.2 ⟨near, hstop⟩)
    omega
  have stops : ∀ n, s.stop.contains n = true → b ≤ n := by
    intro n hn
    have near := Interval.contains_max hn hstop ordered
    have := all start (max n start) (le_max_right n start) (admits_iff.2 ⟨hstart, near⟩)
    omega
  obtain ⟨low, hlow, le⟩ := Interval.exists_stop_le_iff.2 starts
  obtain ⟨high, hhigh, le'⟩ := Interval.exists_le_start_iff.2 stops
  exact ⟨low, high, minimal?_eq_some.2 ⟨hlow, hhigh, by omega⟩, le, le'⟩

section narrowing

/-- An extent leaves nothing possible for its ends that another one does not. -/
def Narrows (t s : Span) : Prop :=
  (∀ n, t.start.contains n = true → s.start.contains n = true) ∧
    ∀ n, t.stop.contains n = true → s.stop.contains n = true

lemma narrows_of_combine? (h : s.combine? t = some u) : u.Narrows s := by
  obtain ⟨hstart, hstop, -⟩ := combine?_eq_some.1 h
  exact ⟨fun n hn => ((Interval.contains_of_inter? hstart).1 hn).1,
    fun n hn => ((Interval.contains_of_inter? hstop).1 hn).1⟩

/-- An extent that is not reversed can only come from one that is not. -/
lemma Narrows.isReversed (h : t.Narrows s) (ordered : t.isReversed = false) :
    s.isReversed = false := by
  obtain ⟨start, stop, le, possible⟩ := exists_admits_of_isReversed ordered
  obtain ⟨hstart, hstop⟩ := admits_iff.1 possible
  refine isReversed_eq_false_iff.2 fun low hlow high hhigh => ?_
  exact ((Interval.contains_iff.1 (h.1 start hstart)).1 low hlow).trans
    (le.trans ((Interval.contains_iff.1 (h.2 stop hstop)).2 high hhigh))

/-- The certain part grows. -/
lemma Narrows.minimal? (h : t.Narrows s) (innermost : s.minimal? = some (a, b)) :
    t.SurelyCovers a b := by
  obtain ⟨hlow, hhigh, ordered⟩ := minimal?_eq_some.1 innermost
  obtain ⟨low, low_eq, le⟩ := Interval.exists_stop_le_iff.2 fun m hm =>
    (Interval.contains_iff.1 (h.1 m hm)).2 a hlow
  obtain ⟨high, high_eq, le'⟩ := Interval.exists_le_start_iff.2 fun m hm =>
    (Interval.contains_iff.1 (h.2 m hm)).1 b hhigh
  exact ⟨low, high, minimal?_eq_some.2 ⟨low_eq, high_eq, by omega⟩, le, le'⟩

/-- The possible part shrinks. -/
lemma Narrows.maximal? (h : t.Narrows s) (outermost : s.maximal? = some (a, b)) :
    ∃ low high, t.maximal? = some (low, high) ∧ a ≤ low ∧ high ≤ b := by
  obtain ⟨hlow, hhigh⟩ := maximal?_eq_some.1 outermost
  obtain ⟨low, low_eq, le⟩ := Interval.exists_le_start_iff.2 fun m hm =>
    (Interval.contains_iff.1 (h.1 m hm)).1 a hlow
  obtain ⟨high, high_eq, le'⟩ := Interval.exists_stop_le_iff.2 fun m hm =>
    (Interval.contains_iff.1 (h.2 m hm)).2 b hhigh
  exact ⟨low, high, maximal?_eq_some.2 ⟨low_eq, high_eq⟩, le, le'⟩

end narrowing

/-- The innermost ends lie between the outermost ones. -/
lemma le_of_minimal?_of_maximal? (innermost : s.minimal? = some (a, b))
    (outermost : s.maximal? = some (low, high)) : low ≤ a ∧ a ≤ b ∧ b ≤ high := by
  obtain ⟨ha, hb, le⟩ := minimal?_eq_some.1 innermost
  obtain ⟨hlow, hhigh⟩ := maximal?_eq_some.1 outermost
  exact ⟨s.start.start_le_stop hlow ha, le, s.stop.start_le_stop hb hhigh⟩

lemma le_of_maximal? (ordered : s.isReversed = false) (outermost : s.maximal? = some (low, high)) :
    low ≤ high := by
  obtain ⟨hlow, hhigh⟩ := maximal?_eq_some.1 outermost
  exact isReversed_eq_false_iff.1 ordered low hlow high hhigh

end Span

namespace Box

variable {b c : Box} {left top right bottom : Int}

lemma contains_ofEdges (across : left ≤ right) (down : top ≤ bottom) :
    (ofEdges left top right bottom).contains c = true ↔
      (left ≤ c.left ∧ c.right ≤ right) ∧ top ≤ c.top ∧ c.bottom ≤ bottom := by
  rw [contains_iff, right_ofEdges across, bottom_ofEdges down, and_assoc]
  rfl

lemma ofEdges_contains_ofEdges {left' top' right' bottom' : Int} (across : left ≤ right)
    (down : top ≤ bottom) (hl : left' ≤ left) (hr : right ≤ right') (ht : top' ≤ top)
    (hb : bottom ≤ bottom') :
    (ofEdges left' top' right' bottom').contains (ofEdges left top right bottom) = true := by
  rw [contains_ofEdges (hl.trans (across.trans hr)) (ht.trans (down.trans hb)),
    right_ofEdges across, bottom_ofEdges down]
  exact ⟨⟨hl, hr⟩, ht, hb⟩

/-- The sizes of a box are words. -/
def HasWordSizes (b : Box) : Prop := Word.holdsAll [(b.width : Int), b.height] = true

lemma HasWordSizes.of_contains (h : b.HasWordSizes) (within : b.contains c = true) :
    c.HasWordSizes := by
  obtain ⟨left, right, top, bottom⟩ := contains_iff.1 within
  simp only [HasWordSizes, Word.holdsAll, List.all_cons, List.all_nil, Bool.and_true,
    Bool.and_eq_true, Word.holds_iff, Word.least, Word.greatest] at h ⊢
  unfold Box.right at right
  unfold Box.bottom at bottom
  omega

lemma holdsAll_ofEdgesWorkings (across : left ≤ right) (down : top ≤ bottom) :
    Word.holdsAll (ofEdgesWorkings left top right bottom) = true ↔
      (ofEdges left top right bottom).HasWordSizes := by
  have width : ((ofEdges left top right bottom).width : Int) = right - left :=
    Int.toNat_of_nonneg (Int.sub_nonneg.2 across)
  have height : ((ofEdges left top right bottom).height : Int) = bottom - top :=
    Int.toNat_of_nonneg (Int.sub_nonneg.2 down)
  rw [HasWordSizes, width, height, ofEdgesWorkings]

end Box

namespace Region

variable {r s t : Region} {b c m e : Box}

section containment

lemma mayContain_iff_mayCover : r.mayContain b = true ↔
    r.horizontal.MayCover b.left b.right ∧ r.vertical.MayCover b.top b.bottom := by
  rw [mayContain_iff]
  constructor
  · rintro ⟨left, top, right, bottom⟩
    exact ⟨⟨left, right⟩, top, bottom⟩
  · rintro ⟨⟨left, right⟩, top, bottom⟩
    exact ⟨left, top, right, bottom⟩

lemma surelyContains_iff_surelyCovers : r.surelyContains b = true ↔
    r.horizontal.SurelyCovers b.left b.right ∧ r.vertical.SurelyCovers b.top b.bottom := by
  have ordered {s : Span} {low high : Int} (h : s.minimal? = some (low, high)) : low ≤ high :=
    (Span.minimal?_eq_some.1 h).2.2
  rw [surelyContains, Option.any_eq_true]
  constructor
  · rintro ⟨_, innermost, within⟩
    obtain ⟨left, top, right, bottom, across, down, rfl⟩ := minimal?_eq_some.1 innermost
    obtain ⟨beside, above⟩ := (Box.contains_ofEdges (ordered across) (ordered down)).1 within
    exact ⟨⟨left, right, across, beside⟩, top, bottom, down, above⟩
  · rintro ⟨⟨left, right, across, beside⟩, top, bottom, down, above⟩
    exact ⟨_, minimal?_eq_some.2 ⟨left, top, right, bottom, across, down, rfl⟩,
      (Box.contains_ofEdges (ordered across) (ordered down)).2 ⟨beside, above⟩⟩

lemma admits_ofEdges {left top right bottom : Int} (across : left ≤ right) (down : top ≤ bottom) :
    r.admits (Box.ofEdges left top right bottom) = true ↔
      r.horizontal.admits left right = true ∧ r.vertical.admits top bottom = true := by
  rw [admits_iff, Box.right_ofEdges across, Box.bottom_ofEdges down]
  rfl

/-- A box may lie in a region if and only if some possible box encloses it. -/
lemma mayContain_iff_exists :
    r.mayContain b = true ↔ ∃ c, r.admits c = true ∧ c.contains b = true := by
  rw [mayContain_iff_mayCover, Span.mayCover_iff, Span.mayCover_iff]
  constructor
  · rintro ⟨⟨left, right, across, hl, hr⟩, top, bottom, down, ht, hb⟩
    have ordered : left ≤ right := hl.trans (b.left_le_right.trans hr)
    have ordered' : top ≤ bottom := ht.trans (b.top_le_bottom.trans hb)
    exact ⟨Box.ofEdges left top right bottom, (admits_ofEdges ordered ordered').2 ⟨across, down⟩,
      (Box.contains_ofEdges ordered ordered').2 ⟨⟨hl, hr⟩, ht, hb⟩⟩
  · rintro ⟨c, possible, within⟩
    obtain ⟨across, down⟩ := admits_iff.1 possible
    obtain ⟨hl, hr, ht, hb⟩ := Box.contains_iff.1 within
    exact ⟨⟨c.left, c.right, across, hl, hr⟩, c.top, c.bottom, down, ht, hb⟩

/-- A box with grid points lies in a region for certain if and only if every possible box encloses
it, provided that there is one. -/
lemma surelyContains_iff_forall (possible : r.admits c = true) (filled : b.isEmpty = false) :
    r.surelyContains b = true ↔ ∀ d, r.admits d = true → d.contains b = true := by
  rw [surelyContains_iff_surelyCovers]
  constructor
  · rintro ⟨across, down⟩ d hd
    obtain ⟨beside, above⟩ := admits_iff.1 hd
    obtain ⟨hl, hr⟩ := across.le beside
    obtain ⟨ht, hb⟩ := down.le above
    exact Box.contains_iff.2 ⟨hl, hr, ht, hb⟩
  · intro all
    obtain ⟨beside, above⟩ := admits_iff.1 possible
    obtain ⟨wide, high⟩ := Box.isEmpty_eq_false.1 filled
    have columns : b.left < b.right := by
      unfold Box.right
      omega
    have rows : b.top < b.bottom := by
      unfold Box.bottom
      omega
    -- one axis is varied while the possible box keeps its place on the other
    refine ⟨Span.surelyCovers_of_forall beside c.left_le_right columns fun left right le h => ?_,
      Span.surelyCovers_of_forall above c.top_le_bottom rows fun top bottom le h => ?_⟩
    · have within := all _ ((admits_ofEdges le c.top_le_bottom).2 ⟨h, above⟩)
      exact ((Box.contains_ofEdges le c.top_le_bottom).1 within).1
    · have within := all _ ((admits_ofEdges c.left_le_right le).2 ⟨beside, h⟩)
      exact ((Box.contains_ofEdges c.left_le_right le).1 within).2

end containment

/-- A box may lie in a region exactly if some possible box encloses it. If it has grid points and if
there is any possible box, it lies in the region for certain exactly if all of them enclose it. -/
theorem containment_exact (r : Region) (b : Box) :
    (r.mayContain b = true ↔ ∃ c, r.admits c = true ∧ c.contains b = true) ∧
      ((∃ c, r.admits c = true) → b.isEmpty = false →
        (r.surelyContains b = true ↔ ∀ c, r.admits c = true → c.contains b = true)) :=
  ⟨mayContain_iff_exists, fun ⟨_, possible⟩ filled => surelyContains_iff_forall possible filled⟩

/-- Of two boxes, one lies for certain in a region without a lowest bottom edge, and the other one
only may. -/
theorem containment_exact_edges :
    let r := ofEdges (between 0 2) (between 0 1) (between 8 10) (Interval.atLeast 5)
    let inner : Box := ⟨2, 1, 6, 4⟩
    let outer : Box := ⟨1, 1, 9, 7⟩
    (∃ c, r.admits c = true) ∧ inner.isEmpty = false ∧ outer.isEmpty = false ∧
      (∀ c, r.admits c = true → c.contains inner = true) ∧
      (∃ c, r.admits c = true ∧ c.contains outer = true) ∧
      ¬ ∀ c, r.admits c = true → c.contains outer = true := by
  intro r inner outer
  have possible : ∃ c, r.admits c = true := ⟨⟨0, 0, 8, 5⟩, by decide⟩
  obtain ⟨-, surely⟩ := containment_exact r inner
  obtain ⟨may, surely'⟩ := containment_exact r outer
  refine ⟨possible, rfl, rfl, (surely possible rfl).1 (by decide), may.1 (by decide), ?_⟩
  exact fun all => absurd ((surely' possible rfl).2 all) (by decide)

section combination

/-- What a region covers for certain lies within what it may cover. -/
lemma contains_of_minimal?_of_maximal? (innermost : r.minimal? = some m)
    (outermost : r.maximal? = some e) : e.contains m = true := by
  obtain ⟨left, top, right, bottom, across, down, rfl⟩ := minimal?_eq_some.1 innermost
  obtain ⟨left', top', right', bottom', across', down', rfl⟩ := maximal?_eq_some.1 outermost
  obtain ⟨hl, ordered, hr⟩ := Span.le_of_minimal?_of_maximal? across across'
  obtain ⟨ht, ordered', hb⟩ := Span.le_of_minimal?_of_maximal? down down'
  exact Box.ofEdges_contains_ofEdges ordered ordered' hl hr ht hb

/-- What is covered for certain remains so. -/
lemma surelyContains_of_combine? (h : r.combine? s = some t) (innermost : r.minimal? = some m) :
    t.surelyContains m = true := by
  obtain ⟨across, down⟩ := combine?_eq_some.1 h
  obtain ⟨left, top, right, bottom, beside, above, rfl⟩ := minimal?_eq_some.1 innermost
  obtain ⟨-, -, ordered⟩ := Span.minimal?_eq_some.1 beside
  obtain ⟨-, -, ordered'⟩ := Span.minimal?_eq_some.1 above
  rw [surelyContains_iff_surelyCovers, Box.right_ofEdges ordered, Box.bottom_ofEdges ordered']
  exact ⟨(Span.narrows_of_combine? across).minimal? beside,
    (Span.narrows_of_combine? down).minimal? above⟩

/-- The outermost edges of a region are in order. -/
def IsOrdered (r : Region) : Prop :=
  r.horizontal.isReversed = false ∧ r.vertical.isReversed = false

lemma isOrdered_of_combine? (h : r.combine? s = some t) : t.IsOrdered :=
  ⟨(Span.combine?_eq_some.1 (combine?_eq_some.1 h).1).2.2,
    (Span.combine?_eq_some.1 (combine?_eq_some.1 h).2).2.2⟩

/-- A region that can be combined with another one has had its edges in order. -/
lemma isOrdered_of_combines (h : r.combine? s = some t) : r.IsOrdered := by
  obtain ⟨across, down⟩ := combine?_eq_some.1 h
  obtain ⟨ordered, ordered'⟩ := isOrdered_of_combine? h
  exact ⟨(Span.narrows_of_combine? across).isReversed ordered,
    (Span.narrows_of_combine? down).isReversed ordered'⟩

/-- What was not possible before does not become so. -/
lemma exists_maximal?_of_combine? (h : r.combine? s = some t) (outermost : r.maximal? = some e) :
    ∃ e', t.maximal? = some e' ∧ e.contains e' = true := by
  obtain ⟨across, down⟩ := combine?_eq_some.1 h
  obtain ⟨left, top, right, bottom, beside, above, rfl⟩ := maximal?_eq_some.1 outermost
  obtain ⟨left', right', beside', hl, hr⟩ := (Span.narrows_of_combine? across).maximal? beside
  obtain ⟨top', bottom', above', ht, hb⟩ := (Span.narrows_of_combine? down).maximal? above
  have ordered := isOrdered_of_combine? h
  exact ⟨_, maximal?_eq_some.2 ⟨left', top', right', bottom', beside', above', rfl⟩,
    Box.ofEdges_contains_ofEdges (Span.le_of_maximal? ordered.1 beside')
      (Span.le_of_maximal? ordered.2 above') hl hr ht hb⟩

lemma holdsAll_minimalWorkings (innermost : r.minimal? = some m) :
    Word.holdsAll r.minimalWorkings = true ↔ m.HasWordSizes := by
  obtain ⟨left, top, right, bottom, beside, above, rfl⟩ := minimal?_eq_some.1 innermost
  obtain ⟨-, -, ordered⟩ := Span.minimal?_eq_some.1 beside
  obtain ⟨-, -, ordered'⟩ := Span.minimal?_eq_some.1 above
  rw [minimalWorkings, beside, above]
  exact Box.holdsAll_ofEdgesWorkings ordered ordered'

lemma IsOrdered.holdsAll_maximalWorkings (h : r.IsOrdered) (outermost : r.maximal? = some e) :
    Word.holdsAll r.maximalWorkings = true ↔ e.HasWordSizes := by
  obtain ⟨left, top, right, bottom, beside, above, rfl⟩ := maximal?_eq_some.1 outermost
  rw [maximalWorkings, beside, above]
  exact Box.holdsAll_ofEdgesWorkings (Span.le_of_maximal? h.1 beside)
    (Span.le_of_maximal? h.2 above)

/-- When a region is combined with another one, what it covers for certain widens, what it may cover
narrows, and the former stays within the latter. What may be covered can be computed if it could be
before. What is covered for certain may become too large for that, if its sizes are no words, but
not where what may be covered can be computed. -/
theorem extents_nest (h : r.combine? s = some t) :
    (∀ m ∈ r.minimal?, ∃ m' ∈ t.minimal?, m'.contains m = true ∧
      (Word.holdsAll t.minimalWorkings = true ↔ m'.HasWordSizes)) ∧
    (∀ m ∈ t.minimal?, ∀ e ∈ t.maximal?, e.contains m = true ∧
      (Word.holdsAll t.maximalWorkings = true → Word.holdsAll t.minimalWorkings = true)) ∧
    ∀ e ∈ r.maximal?, ∃ e' ∈ t.maximal?, e.contains e' = true ∧
      (Word.holdsAll r.maximalWorkings = true → Word.holdsAll t.maximalWorkings = true) := by
  have ordered := isOrdered_of_combine? h
  refine ⟨fun m hm => ?_, fun m hm e he => ?_, fun e he => ?_⟩
  · obtain ⟨m', hm', within⟩ := (Option.any_eq_true _ _).1 (surelyContains_of_combine? h hm)
    exact ⟨m', hm', within, holdsAll_minimalWorkings hm'⟩
  · have within := contains_of_minimal?_of_maximal? hm he
    rw [ordered.holdsAll_maximalWorkings he, holdsAll_minimalWorkings hm]
    exact ⟨within, fun fits => fits.of_contains within⟩
  · obtain ⟨e', he', within⟩ := exists_maximal?_of_combine? h he
    rw [(isOrdered_of_combines h).holdsAll_maximalWorkings he]
    exact ⟨e', he', within, fun fits =>
      (ordered.holdsAll_maximalWorkings he').2 (fits.of_contains within)⟩

/-- A limit for the left and for the right edge keeps the extents of a region nested. -/
theorem extents_nest_edges :
    let r := ofEdges (between 0 2) (between 0 1) (between 8 10) (between 5 6)
    let s := ofEdges (.atLeast 1) .unbounded (.atMost 9) .unbounded
    ∃ t, r.combine? s = some t ∧
      (∃ m' ∈ t.minimal?, m'.contains ⟨2, 1, 6, 4⟩ = true) ∧
      (∃ e' ∈ t.maximal?, Box.contains ⟨0, 0, 10, 6⟩ e' = true) ∧
      ∀ m ∈ t.minimal?, ∀ e ∈ t.maximal?, e.contains m = true := by
  intro r s
  have combined : r.combine? s =
      some (ofEdges (between 1 2) (between 0 1) (between 8 9) (between 5 6)) := by decide
  obtain ⟨certain, nested, possible⟩ := extents_nest combined
  obtain ⟨m', hm', within, -⟩ := certain ⟨2, 1, 6, 4⟩ (by decide)
  obtain ⟨e', he', within', -⟩ := possible ⟨0, 0, 10, 6⟩ (by decide)
  exact ⟨_, combined, ⟨m', hm', within⟩, ⟨e', he', within'⟩, fun m hm e he => (nested m hm e he).1⟩

/-- What is covered for certain can be computed before a combination, but need not be afterwards:
without outermost edges, its width may grow beyond the words. -/
theorem certain_out_of_words :
    let r := ofEdges (.atMost 0) (.exact 0) (.atLeast 1) (.exact 1)
    let s := ofEdges (.atMost (-1)) .unbounded (.atLeast Word.greatest) .unbounded
    ∃ t, r.combine? s = some t ∧
      Fault.within r.minimalWorkings r.minimal? = .ok (some (Box.unit 0 0)) ∧
      Fault.within t.minimalWorkings t.minimal? = .error .overflow := by
  intro r s
  have combined : r.combine? s =
      some (ofEdges (.atMost (-1)) (.exact 0) (.atLeast Word.greatest) (.exact 1)) := by decide
  exact ⟨_, combined, by decide, by decide⟩

end combination

end Region

end SpatialGrammar
