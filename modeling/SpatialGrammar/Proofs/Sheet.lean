import Mathlib.Data.List.Pairwise
import SpatialGrammar.Proofs.Plane.Box
import SpatialGrammar.Sheet

/-!
# Where the cells of a sheet lie

The sheets that writing and merging can make. Their cells are stored in ascending order of their
corners, and each of them has the box of a merged cell or of a single point beside all merged cells
(`Placed`). Main statement: `Made.cells_apart`, no two cells have a grid point in common.
-/

namespace SpatialGrammar.Sheet

variable {s : Sheet} {b span : Box} {c d : Cell} {cells : List Cell} {p q : Point} {text : String}

/-- The sheets that writing texts and merging boxes make of the empty one. -/
inductive Made : Sheet → Prop
  | empty : Made empty
  | set {s : Sheet} (made : Made s) (p : Point) (text : String) : Made (s.set p text)
  | merge {s : Sheet} (made : Made s) (b : Box) : Made (s.merge b)

section order

lemma rowMajor_iff : rowMajor p q = true ↔ p.y < q.y ∨ p.y = q.y ∧ p.x < q.x := by
  simp [rowMajor]

lemma rowMajor_ne (h : rowMajor p q = true) : p ≠ q := by
  rintro rfl
  rw [rowMajor_iff] at h
  omega

lemma rowMajor_trans {r : Point} (h : rowMajor p q = true) (h' : rowMajor q r = true) :
    rowMajor p r = true := by
  rw [rowMajor_iff] at h h' ⊢
  omega

lemma rowMajor_of_not (h : ¬ rowMajor p q = true) (ne : p ≠ q) : rowMajor q p = true := by
  rw [rowMajor_iff] at h ⊢
  have differ : p.x = q.x → p.y ≠ q.y := fun hx hy => ne (by cases p; cases q; simp_all)
  omega

/-- Cells are listed row by row, at most one of them under each corner. -/
def Ascending (cells : List Cell) : Prop :=
  cells.Pairwise fun c d => rowMajor c.box.corner d.box.corner = true

/-- The inserted cell takes the place of what has the same corner. -/
lemma mem_insertCell (h : Ascending cells) : d ∈ insertCell c cells ↔
    d = c ∨ d ∈ cells ∧ d.box.corner ≠ c.box.corner := by
  induction cells with
  | nil => simp [insertCell]
  | cons e rest ih =>
    obtain ⟨first, tail⟩ := List.pairwise_cons.1 h
    rw [insertCell]
    split
    next same =>
      have away : ∀ d ∈ rest, d.box.corner ≠ c.box.corner := fun d hd =>
        same ▸ (rowMajor_ne (first d hd)).symm
      simp only [List.mem_cons]
      grind
    next differs =>
      split
      next before =>
        have away : ∀ d ∈ e :: rest, d.box.corner ≠ c.box.corner := by
          refine List.forall_mem_cons.2 ⟨Ne.symm differs, fun d hd => ?_⟩
          exact (rowMajor_ne (rowMajor_trans before (first d hd))).symm
        rw [List.mem_cons]
        grind
      next =>
        rw [List.mem_cons, ih tail, List.mem_cons]
        grind

lemma ascending_insertCell (h : Ascending cells) (c : Cell) : Ascending (insertCell c cells) := by
  induction cells with
  | nil => exact List.pairwise_singleton _ c
  | cons e rest ih =>
    obtain ⟨first, tail⟩ := List.pairwise_cons.1 h
    rw [insertCell]
    split
    next same => exact .cons (fun d hd => same ▸ first d hd) tail
    next differs =>
      split
      next before =>
        refine .cons (List.forall_mem_cons.2 ⟨before, fun d hd => ?_⟩) h
        exact rowMajor_trans before (first d hd)
      next after =>
        refine .cons (fun d hd => ?_) (ih tail)
        cases (mem_insertCell tail).1 hd with
        | inl same => exact same ▸ rowMajor_of_not after differs
        | inr old => exact first d old.1

end order

/-- The box of a merged cell, or that of a single point beside all merged cells. -/
def HasPlace (s : Sheet) (b : Box) : Prop :=
  b ∈ s.spans ∨ ∃ p : Point, b = Box.unit p.x p.y ∧ ∀ span ∈ s.spans, ¬ span.containsPoint p = true

/-- How the cells of a sheet lie, and the boxes that were merged. -/
structure Placed (s : Sheet) : Prop where
  ascending : Ascending s.cells
  hasPlace : ∀ c ∈ s.cells, s.HasPlace c.box
  spans_nonempty : ∀ b ∈ s.spans, b.isEmpty = false
  spans_apart : s.spans.Pairwise Box.Apart

/-- Boxes of several points that were merged are those of cells. -/
def HoldsSpans (s : Sheet) : Prop := ∀ b ∈ s.spans, 1 < b.area → ∃ c ∈ s.cells, c.box = b

namespace Placed

lemma nonempty (h : s.Placed) (hb : s.HasPlace b) : b.isEmpty = false := by
  cases hb with
  | inl merged => exact h.spans_nonempty b merged
  | inr single =>
    obtain ⟨p, rfl, -⟩ := single
    rfl

/-- Different places have no grid point in common. -/
lemma apart (h : s.Placed) (hb : s.HasPlace b) (hc : s.HasPlace span) (ne : b ≠ span) :
    b.Apart span := by
  obtain merged | ⟨p, rfl, out⟩ := hb <;> obtain merged' | ⟨q, rfl, out'⟩ := hc
  · exact h.spans_apart.forall merged merged' ne
  · intro r hr hr'
    rw [Box.containsPoint_unit.1 hr'] at hr
    exact out' b merged hr
  · intro r hr hr'
    rw [Box.containsPoint_unit.1 hr] at hr'
    exact out span merged' hr'
  · intro r hr hr'
    rw [Box.containsPoint_unit] at hr hr'
    obtain ⟨hx, hy⟩ := Point.mk.inj (hr.symm.trans hr')
    exact ne (by rw [hx, hy])

lemma eq_of_corner (h : s.Placed) (hb : s.HasPlace b) (hc : s.HasPlace span)
    (same : b.corner = span.corner) : b = span := by
  by_contra ne
  refine h.apart hb hc ne b.corner (Box.containsPoint_corner (h.nonempty hb)) ?_
  rw [same]
  exact Box.containsPoint_corner (h.nonempty hc)

lemma filter (h : s.Placed) (kept : Cell → Bool) :
    Placed { s with cells := s.cells.filter kept } where
  ascending := h.ascending.filter kept
  hasPlace c hc := h.hasPlace c (List.mem_filter.1 hc |>.1)
  spans_nonempty := h.spans_nonempty
  spans_apart := h.spans_apart

lemma store (h : s.Placed) (hc : s.HasPlace c.box) : (s.store c).Placed where
  ascending := ascending_insertCell h.ascending c
  hasPlace d hd := by
    cases (mem_insertCell h.ascending).1 hd with
    | inl same => exact same ▸ hc
    | inr old => exact h.hasPlace d old.1
  spans_nonempty := h.spans_nonempty
  spans_apart := h.spans_apart

lemma holdsSpans_store (h : s.Placed) (hc : s.HasPlace c.box)
    (held : ∀ b ∈ s.spans, 1 < b.area → b = c.box ∨ ∃ d ∈ s.cells, d.box = b) :
    (s.store c).HoldsSpans := by
  intro b hb large
  by_cases same : b = c.box
  · exact ⟨c, (mem_insertCell h.ascending).2 (.inl rfl), same.symm⟩
  · obtain ⟨d, hd, rfl⟩ := (held b hb large).resolve_left same
    refine ⟨d, (mem_insertCell h.ascending).2 (.inr ⟨hd, fun corner => ?_⟩), rfl⟩
    exact same (h.eq_of_corner (.inl hb) hc corner)

/-- The cells have no grid points in common. -/
lemma cells_apart (h : s.Placed) : s.cells.Pairwise fun c d => c.box.Apart d.box := by
  refine h.ascending.imp_of_mem fun {c d} hc hd before => ?_
  refine h.apart (h.hasPlace c hc) (h.hasPlace d hd) fun same => rowMajor_ne before ?_
  rw [same]

end Placed

lemma stored?_mem (h : s.stored? p = some c) : c ∈ s.cells ∧ c.box.corner = p :=
  ⟨List.mem_of_find?_eq_some h, by simpa using List.find?_some h⟩

/-- A text is written into the merged cell around a point or into the cell of the point. -/
lemma Placed.hasPlace_written (h : s.Placed) (held : s.HoldsSpans) (p : Point) :
    s.HasPlace (((s.stored? (s.anchor p)).map (·.box)).getD (Box.unit p.x p.y)) := by
  cases stored : s.stored? (s.anchor p) with
  | some c => exact h.hasPlace c (stored?_mem stored).1
  | none =>
    rw [Option.map_none, Option.getD_none]
    unfold anchor at stored
    cases around : s.spans.find? fun b => b.containsPoint p with
    | none => exact .inr ⟨p, rfl, List.find?_eq_none.1 around⟩
    | some span =>
      -- a merged box without a cell is that of a single point
      rw [around] at stored
      have merged : span ∈ s.spans := List.mem_of_find?_eq_some around
      have small : span.area ≤ 1 := by
        by_contra large
        obtain ⟨c, hc, same⟩ := held span merged (not_le.1 large)
        exact List.find?_eq_none.1 stored c hc (by simp [same])
      have eq := Box.eq_unit (h.spans_nonempty span merged) small
      have inside : span.containsPoint p = true := by simpa using List.find?_some around
      rw [eq, Box.containsPoint_unit] at inside
      rw [inside, ← eq]
      exact .inl merged

lemma Placed.set (h : s.Placed) (held : s.HoldsSpans) (p : Point) (text : String) :
    (s.set p text).Placed ∧ (s.set p text).HoldsSpans := by
  have place := h.hasPlace_written held p
  unfold Sheet.set
  dsimp only
  split
  next =>
    split
    next old =>
      refine ⟨h.filter _, fun b hb large => ?_⟩
      obtain ⟨c, hc, rfl⟩ := held b hb large
      refine ⟨c, List.mem_filter.2 ⟨hc, ?_⟩, rfl⟩
      rw [bne_iff_ne]
      intro corner
      obtain ⟨d, stored, single⟩ := (Option.any_eq_true _ _).1 old
      obtain ⟨hd, same⟩ := stored?_mem stored
      have eq := h.eq_of_corner (h.hasPlace c hc) (h.hasPlace d hd) (corner.trans same.symm)
      -- the cell that is removed is not that of several points
      simp [Cell.isMerged, ← eq, large] at single
    next => exact ⟨h, held⟩
  next => exact ⟨h.store place, h.holdsSpans_store place fun b hb large => .inr (held b hb large)⟩

/-- A box can be merged if it has grid points and none of them lies in a merged box. -/
lemma canMerge_iff : s.canMerge b = true ↔ b.isEmpty = false ∧ ∀ span ∈ s.spans, span.Apart b := by
  simp [canMerge, ← Box.inter?_eq_none_iff]

/-- The sheet on which a box counts as merged and has no cells, before one is stored for it. -/
def cleared (s : Sheet) (b : Box) : Sheet :=
  { s with
    cells := s.cells.filter fun c => !b.containsPoint c.box.corner
    spans := b :: s.spans }

lemma Placed.cleared (h : s.Placed) (can : s.canMerge b = true) : (s.cleared b).Placed where
  ascending := h.ascending.filter _
  hasPlace c hc := by
    obtain ⟨hc, out⟩ := List.mem_filter.1 hc
    rcases h.hasPlace c hc with merged | ⟨p, eq, beside⟩
    · exact .inl (List.mem_cons_of_mem b merged)
    · refine .inr ⟨p, eq, List.forall_mem_cons.2 ⟨?_, beside⟩⟩
      simpa [eq, Box.corner, Box.unit] using out
  spans_nonempty := List.forall_mem_cons.2 ⟨(canMerge_iff.1 can).1, h.spans_nonempty⟩
  spans_apart := .cons (fun span hs => ((canMerge_iff.1 can).2 span hs).symm) h.spans_apart

lemma Placed.merge (h : s.Placed) (held : s.HoldsSpans) (b : Box) :
    (s.merge b).Placed ∧ (s.merge b).HoldsSpans := by
  unfold Sheet.merge
  split
  next can =>
    have kept := h.cleared can
    have place : (s.cleared b).HasPlace b := .inl List.mem_cons_self
    refine ⟨kept.store place, kept.holdsSpans_store place fun span hs large => ?_⟩
    rcases List.mem_cons.1 hs with same | old
    · exact .inl same
    · obtain ⟨d, hd, rfl⟩ := held span old large
      have inside := Box.containsPoint_corner (h.spans_nonempty d.box old)
      refine .inr ⟨d, List.mem_filter.2 ⟨hd, ?_⟩, rfl⟩
      simpa using (canMerge_iff.1 can).2 d.box old d.box.corner inside
  next => exact ⟨h, held⟩

theorem Made.placed (made : s.Made) : s.Placed ∧ s.HoldsSpans := by
  induction made with
  | empty => exact ⟨⟨.nil, nofun, nofun, .nil⟩, nofun⟩
  | set _ p text ih => exact ih.1.set ih.2 p text
  | merge _ b ih => exact ih.1.merge ih.2 b

/-- No two cells of a sheet have a grid point in common. -/
theorem Made.cells_apart (made : s.Made) : s.cells.Pairwise fun c d => c.box.Apart d.box :=
  made.placed.1.cells_apart

end SpatialGrammar.Sheet
