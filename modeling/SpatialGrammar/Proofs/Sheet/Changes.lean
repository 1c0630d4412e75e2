import SpatialGrammar.Proofs.Sheet.Points

/-!
# What writing and merging change

What the points of a sheet read after a text has been written or a box has been merged. A text goes
to all points of the cell that is written and to no others. Main statements: `Made.textAt?_set` and
`Made.textAt?_merge`, which also says when a box is refused.
-/

namespace SpatialGrammar.Sheet

variable {s t : Sheet} {b : Box} {c d : Cell} {p q : Point} {text : String}

/-- The box of the cell over a point, or of the point alone where there is no cell. -/
def place (s : Sheet) (p : Point) : Box := ((s.cellAt? p).map (·.box)).getD (Box.unit p.x p.y)

lemma place_eq (found : s.cellAt? p = some c) : s.place p = c.box := by
  rw [place, found]
  rfl

lemma place_eq_unit (found : s.cellAt? p = none) : s.place p = Box.unit p.x p.y := by
  rw [place, found]
  rfl

namespace Placed

/-- A stored cell lies over its own points, and nothing changes for the others. -/
lemma cellAt?_store (h : s.Placed) (hc : s.HasPlace c.box) (q : Point) :
    (s.store c).cellAt? q = if c.box.containsPoint q then some c else s.cellAt? q := by
  refine Option.ext fun d => ?_
  have stored : d ∈ (s.store c).cells ↔ d = c ∨ d ∈ s.cells ∧ d.box.corner ≠ c.box.corner :=
    mem_insertCell h.ascending
  rw [(h.store hc).cellAt?_eq_some_iff, stored]
  split
  next inside =>
    rw [Option.some.injEq]
    constructor
    · rintro ⟨same | ⟨hd, differ⟩, within⟩
      · exact same.symm
      · have ne : d.box ≠ c.box := fun same => differ (by rw [same])
        exact absurd inside (h.apart (h.hasPlace d hd) hc ne q within)
    · rintro rfl
      exact ⟨.inl rfl, inside⟩
  next outside =>
    rw [h.cellAt?_eq_some_iff]
    constructor
    · rintro ⟨rfl | ⟨hd, -⟩, within⟩
      · exact absurd within outside
      · exact ⟨hd, within⟩
    · rintro ⟨hd, within⟩
      refine ⟨.inr ⟨hd, fun corner => outside ?_⟩, within⟩
      rwa [← h.eq_of_corner (h.hasPlace d hd) hc corner]

/-- If the cells that are removed are those over the points of a box, then these lose their cells, and
nothing changes for the others. -/
lemma cellAt?_of_removed (h : s.Placed) (h' : t.Placed) {kept : Cell → Bool}
    (left : t.cells = s.cells.filter kept)
    (removed : ∀ d ∈ s.cells, d.box.containsPoint q = true →
      (kept d = true ↔ ¬ b.containsPoint q = true)) :
    t.cellAt? q = if b.containsPoint q then none else s.cellAt? q := by
  refine Option.ext fun d => ?_
  rw [h'.cellAt?_eq_some_iff, left, List.mem_filter]
  split
  next inside =>
    simp only [reduceCtorEq, iff_false]
    rintro ⟨⟨hd, still⟩, within⟩
    exact (removed d hd within).1 still inside
  next outside =>
    rw [h.cellAt?_eq_some_iff]
    constructor
    · rintro ⟨⟨hd, -⟩, within⟩
      exact ⟨hd, within⟩
    · rintro ⟨hd, within⟩
      exact ⟨⟨hd, (removed d hd within).2 outside⟩, within⟩

section writing

/-- Where a visible text is written, it fills the place of the point. -/
lemma cellAt?_set_of_visible (h : s.Placed) (held : s.HoldsSpans)
    (visible : Text.isBlankText text = false) (q : Point) :
    (s.set p text).cellAt? q =
      if (s.place p).containsPoint q then some ⟨text, s.place p⟩ else s.cellAt? q := by
  have written : s.set p text = s.store ⟨text, s.place p⟩ := by
    rw [Sheet.set, visible]
    rfl
  rw [written, h.cellAt?_store (h.hasPlace_written held p)]

lemma containsPoint_place (h : s.Placed) (p : Point) : (s.place p).containsPoint p = true := by
  cases found : s.cellAt? p with
  | none =>
    rw [place_eq_unit found]
    exact Box.containsPoint_unit.2 rfl
  | some c =>
    rw [place_eq found]
    exact (h.cellAt?_eq_some_iff.1 found).2

/-- Where a blank text is written, it removes the cell of the point, if this is not merged. -/
lemma cellAt?_set_of_blank (h : s.Placed) (blank : Text.isBlankText text = true)
    (single : ∀ c ∈ s.cellAt? p, c.isMerged = false) (q : Point) :
    (s.set p text).cellAt? q = if (s.place p).containsPoint q then none else s.cellAt? q := by
  cases found : s.cellAt? p with
  | none =>
    have kept : s.set p text = s := by
      rw [Sheet.set, blank, show s.stored? (s.anchor p) = none from found]
      rfl
    rw [kept, place_eq_unit found]
    split
    next inside => rw [Box.containsPoint_unit.1 inside, ← found]
    next => rfl
  | some c =>
    have cleared : s.set p text =
        { s with cells := s.cells.filter fun d => d.box.corner != s.anchor p } := by
      rw [Sheet.set, blank, show s.stored? (s.anchor p) = some c from found, Option.any_some,
        single c found]
      rfl
    obtain ⟨hc, corner⟩ := stored?_mem found
    rw [place_eq found, cleared]
    refine h.cellAt?_of_removed (h.filter _) rfl fun d hd within => ?_
    rw [bne_iff_ne, ← corner, not_iff_not]
    constructor
    · intro same
      rwa [← h.eq_of_corner (h.hasPlace d hd) (h.hasPlace c hc) same]
    · intro inside
      by_contra differ
      have ne : d.box ≠ c.box := fun same => differ (by rw [same])
      exact h.apart (h.hasPlace d hd) (h.hasPlace c hc) ne q within inside

/-- A merged cell withstands a blank text. -/
lemma set_eq_self (blank : Text.isBlankText text = true) (found : s.cellAt? p = some c)
    (merged : c.isMerged = true) : s.set p text = s := by
  rw [Sheet.set, blank, show s.stored? (s.anchor p) = some c from found, Option.any_some, merged]
  rfl

end writing

section merging

/-- Merged cells are those of merged boxes. -/
lemma box_mem_spans (h : s.Placed) (hc : c ∈ s.cells) (merged : c.isMerged = true) :
    c.box ∈ s.spans := by
  obtain span | ⟨p, single, -⟩ := h.hasPlace c hc
  · exact span
  · rw [Cell.isMerged, single] at merged
    cases merged

/-- A merged box is that of a merged cell, unless it has a single point. -/
lemma mem_spans_cases (h : s.Placed) (held : s.HoldsSpans) (hb : b ∈ s.spans) :
    (∃ c ∈ s.cells, c.isMerged = true ∧ c.box = b) ∨ ∃ p : Point, b = Box.unit p.x p.y := by
  by_cases large : 1 < b.area
  · obtain ⟨c, hc, rfl⟩ := held b hb large
    exact .inl ⟨c, hc, decide_eq_true large, rfl⟩
  · exact .inr ⟨b.corner, Box.eq_unit (h.spans_nonempty b hb) (not_lt.1 large)⟩

lemma canMerge_eq_false_iff (h : s.Placed) (held : s.HoldsSpans) :
    s.canMerge b = false ↔ b.isEmpty = true ∨
      (∃ c ∈ s.cells, c.isMerged = true ∧
        ∃ p, c.box.containsPoint p = true ∧ b.containsPoint p = true) ∨
      ∃ p, Box.unit p.x p.y ∈ s.spans ∧ b.containsPoint p = true := by
  rw [← Bool.not_eq_true, canMerge_iff, not_and_or, Bool.not_eq_false]
  refine or_congr_right ?_
  simp only [Box.Apart, not_forall, not_not]
  constructor
  · rintro ⟨span, hs, p, inside, within⟩
    obtain ⟨c, hc, merged, rfl⟩ | ⟨q, rfl⟩ := h.mem_spans_cases held hs
    · exact .inl ⟨c, hc, merged, p, inside, within⟩
    · obtain rfl : p = q := Box.containsPoint_unit.1 inside
      exact .inr ⟨p, hs, within⟩
  · rintro (⟨c, hc, merged, p, inside, within⟩ | ⟨p, hs, within⟩)
    · exact ⟨c.box, h.box_mem_spans hc merged, p, inside, within⟩
    · exact ⟨_, hs, p, Box.containsPoint_unit.2 rfl, within⟩

/-- The cells under a box that is merged are those that begin in it. -/
lemma containsPoint_corner_iff (h : s.Placed) (can : s.canMerge b = true) (hd : d ∈ s.cells)
    (within : d.box.containsPoint q = true) :
    b.containsPoint d.box.corner = true ↔ b.containsPoint q = true := by
  obtain merged | ⟨p, single, -⟩ := h.hasPlace d hd
  · have apart := (canMerge_iff.1 can).2 d.box merged
    have own := Box.containsPoint_corner (h.nonempty (h.hasPlace d hd))
    exact iff_of_false (apart _ own) (apart q within)
  · rw [single, Box.containsPoint_unit] at within
    rw [single, within]
    rfl

/-- The first corner of a box that is merged leads to itself. -/
lemma stored?_corner (h : s.Placed) (can : s.canMerge b = true) :
    s.stored? b.corner = s.cellAt? b.corner := by
  obtain ⟨filled, clear⟩ := canMerge_iff.1 can
  have beside : s.HasPlace (Box.unit b.corner.x b.corner.y) :=
    .inr ⟨b.corner, rfl, fun span hs inside =>
      clear span hs b.corner inside (Box.containsPoint_corner filled)⟩
  rw [cellAt?, h.anchor_eq beside (Box.containsPoint_unit.2 rfl)]
  rfl

/-- A merged box has one cell with the text of its first corner, and nothing changes beside it. -/
lemma cellAt?_merge (h : s.Placed) (can : s.canMerge b = true) (q : Point) :
    (s.merge b).cellAt? q =
      if b.containsPoint q then some ⟨(s.textAt? b.corner).getD "", b⟩ else s.cellAt? q := by
  have merged : s.merge b = (s.cleared b).store ⟨(s.textAt? b.corner).getD "", b⟩ := by
    rw [Sheet.merge, if_pos can, h.stored?_corner can]
    rfl
  rw [merged, (h.cleared can).cellAt?_store (.inl List.mem_cons_self)]
  refine ite_congr rfl (fun _ => rfl) fun outside => ?_
  rw [h.cellAt?_of_removed (b := b) (h.cleared can) rfl fun d hd within => ?_, if_neg outside]
  rw [Bool.not_eq_true', ← Bool.not_eq_true, h.containsPoint_corner_iff can hd within]

end merging

end Placed

/-- A visible text that is written on a sheet is read at every point of the cell over the point of
writing, or at this point alone if there was no cell; a blank one removes the text there. All other
points read what they have read before. Only a merged cell withstands a blank text, which changes
nothing then. -/
theorem Made.textAt?_set (made : s.Made) (p : Point) (text : String) :
    (Text.isBlankText text = false →
      (s.set p text).cellAt? p = some ⟨text, s.place p⟩ ∧
        ∀ q, (s.set p text).textAt? q =
          if (s.place p).containsPoint q then some text else s.textAt? q) ∧
    (Text.isBlankText text = true → (∀ c ∈ s.cellAt? p, c.isMerged = false) →
      ∀ q, (s.set p text).textAt? q =
        if (s.place p).containsPoint q then none else s.textAt? q) ∧
    (Text.isBlankText text = true → (∃ c ∈ s.cellAt? p, c.isMerged = true) →
      s.set p text = s) := by
  obtain ⟨placed, held⟩ := made.placed
  refine ⟨fun visible => ⟨?_, fun q => ?_⟩, fun blank single q => ?_, fun blank => ?_⟩
  · rw [placed.cellAt?_set_of_visible held visible, if_pos (placed.containsPoint_place p)]
  · rw [textAt?, placed.cellAt?_set_of_visible held visible, apply_ite (Option.map _)]
    rfl
  · rw [textAt?, placed.cellAt?_set_of_blank blank single, apply_ite (Option.map _)]
    rfl
  · rintro ⟨c, found, merged⟩
    exact Placed.set_eq_self blank found merged

/-- On a sheet with a title over two points, the title is written through its second point, a single
cell is cleared, and a blank text is written to the title. -/
theorem textAt?_set_title :
    let s := ((empty.set ⟨0, 0⟩ "T").set ⟨2, 0⟩ "x").merge ⟨0, 0, 2, 1⟩
    s.Made ∧ (s.set ⟨1, 0⟩ "Title").textAt? ⟨0, 0⟩ = some "Title" ∧
      (s.set ⟨1, 0⟩ "Title").textAt? ⟨2, 0⟩ = some "x" ∧
      (∀ c ∈ s.cellAt? ⟨2, 0⟩, c.isMerged = false) ∧ (s.set ⟨2, 0⟩ " ").textAt? ⟨2, 0⟩ = none ∧
      (∃ c ∈ s.cellAt? ⟨1, 0⟩, c.isMerged = true) ∧ s.set ⟨1, 0⟩ " " = s := by
  intro s
  have made : s.Made := ((Made.empty.set _ _).set _ _).merge _
  have title : s.cellAt? ⟨1, 0⟩ = some ⟨"T", ⟨0, 0, 2, 1⟩⟩ := by decide +kernel
  have cell : s.cellAt? ⟨2, 0⟩ = some ⟨"x", ⟨2, 0, 1, 1⟩⟩ := by decide +kernel
  have merged : ∃ c ∈ s.cellAt? ⟨1, 0⟩, c.isMerged = true := ⟨_, title, rfl⟩
  have single : ∀ c ∈ s.cellAt? ⟨2, 0⟩, c.isMerged = false := by
    rw [cell]
    rintro c ⟨⟩
    rfl
  obtain ⟨visible, -, -⟩ := made.textAt?_set ⟨1, 0⟩ "Title"
  obtain ⟨-, cleared, -⟩ := made.textAt?_set ⟨2, 0⟩ " "
  obtain ⟨-, -, kept⟩ := made.textAt?_set ⟨1, 0⟩ " "
  obtain ⟨-, reads⟩ := visible (by decide)
  have first := reads ⟨0, 0⟩
  have beside := reads ⟨2, 0⟩
  have gone := cleared (by decide) single ⟨2, 0⟩
  rw [place_eq title] at first beside
  rw [place_eq cell] at gone
  refine ⟨made, first, beside.trans ?_, single, gone, merged, kept (by decide) merged⟩
  rw [if_neg (by decide), textAt?, cell]
  rfl

/-- A blank text that is written to a merged cell leaves its text. -/
theorem title_not_cleared :
    let s := (empty.set ⟨0, 0⟩ "T").merge ⟨0, 0, 2, 1⟩
    s.Made ∧ Text.isBlankText "" = true ∧ (s.set ⟨0, 0⟩ "").textAt? ⟨0, 0⟩ = some "T" ∧
      Text.isBlankText "T" = false := by
  intro s
  exact ⟨(Made.empty.set _ _).merge _, rfl, by decide +kernel, by decide⟩

/-- A box is refused exactly if it is empty, has a point in common with a merged cell, or covers a
point that was merged by itself; nothing changes then. Otherwise all its points read the text that
its first corner has read, an empty text if it has read none, and all points beside it read what they
have read before. -/
theorem Made.textAt?_merge (made : s.Made) (b : Box) :
    (s.canMerge b = false ↔ b.isEmpty = true ∨
      (∃ c ∈ s.cells, c.isMerged = true ∧
        ∃ p, c.box.containsPoint p = true ∧ b.containsPoint p = true) ∨
      ∃ p, Box.unit p.x p.y ∈ s.spans ∧ b.containsPoint p = true) ∧
    (s.canMerge b = false → s.merge b = s) ∧
    (s.canMerge b = true → ∀ q, (s.merge b).textAt? q =
      if b.containsPoint q then some ((s.textAt? b.corner).getD "") else s.textAt? q) := by
  obtain ⟨placed, held⟩ := made.placed
  refine ⟨placed.canMerge_eq_false_iff held, fun refused => ?_, fun can q => ?_⟩
  · rw [Sheet.merge, refused]
    rfl
  · rw [textAt?, placed.cellAt?_merge can, apply_ite (Option.map _)]
    rfl

/-- Beside a title over two points, a box across it is refused, and one below it takes the place of
a cell that is not in its first corner. -/
theorem textAt?_merge_title :
    let s := ((empty.set ⟨0, 0⟩ "T").set ⟨2, 1⟩ "x").merge ⟨0, 0, 2, 1⟩
    let across : Box := ⟨1, 0, 1, 2⟩
    let below : Box := ⟨0, 1, 3, 1⟩
    s.Made ∧ s.canMerge across = false ∧ s.merge across = s ∧ s.canMerge below = true ∧
      (s.merge below).textAt? ⟨2, 1⟩ = some "" ∧ (s.merge below).textAt? ⟨1, 0⟩ = some "T" := by
  intro s across below
  have made : s.Made := ((Made.empty.set _ _).set _ _).merge _
  have title : (⟨"T", ⟨0, 0, 2, 1⟩⟩ : Cell) ∈ s.cells := by decide +kernel
  obtain ⟨refused_iff, unchanged, -⟩ := made.textAt?_merge across
  obtain ⟨-, -, reads⟩ := made.textAt?_merge below
  have refused : s.canMerge across = false :=
    refused_iff.2 (.inr (.inl ⟨_, title, rfl, ⟨1, 0⟩, rfl, rfl⟩))
  have can : s.canMerge below = true := by decide +kernel
  have corner : s.textAt? ⟨0, 1⟩ = none := by decide +kernel
  have beside : s.textAt? ⟨1, 0⟩ = some "T" := by decide +kernel
  refine ⟨made, refused, unchanged refused, can, (reads can ⟨2, 1⟩).trans ?_,
    (reads can ⟨1, 0⟩).trans ?_⟩
  · rw [if_pos (by decide), show below.corner = ⟨0, 1⟩ from rfl, corner]
    rfl
  · rw [if_neg (by decide), beside]

/-- A point that was merged by itself and then cleared leaves a sheet without cells, on which a box
over it is refused. -/
theorem refused_without_cells :
    let s := ((empty.set ⟨0, 0⟩ "a").merge (Box.unit 0 0)).set ⟨0, 0⟩ ""
    s.Made ∧ s.cells = [] ∧ Box.isEmpty ⟨0, 0, 2, 1⟩ = false ∧ s.canMerge ⟨0, 0, 2, 1⟩ = false := by
  intro s
  exact ⟨((Made.empty.set _ _).merge _).set _ _, by decide +kernel, rfl, by decide +kernel⟩

end SpatialGrammar.Sheet
