import Mathlib.Data.List.Nodup
import SpatialGrammar.Proofs.Sheet

/-!
# Which cell a point leads to

On a sheet that is made by writing and merging, every point of a cell leads to that cell, and a
point beside all cells leads to none. Main statement: `Made.cellAt?_eq_some_iff`, from which
`Made.faithful` collects how the cells are stored, where they lie and how far they reach.
-/

namespace SpatialGrammar.Sheet

variable {s : Sheet} {b : Box} {c d : Cell} {p : Point}

section order

variable {cells : List Cell}

/-- At most one cell is listed under each corner. -/
lemma Ascending.eq_of_corner (h : Ascending cells) (hc : c ∈ cells) (hd : d ∈ cells)
    (same : c.box.corner = d.box.corner) : c = d := by
  have nodup : (cells.map fun c => c.box.corner).Nodup :=
    List.pairwise_map.2 (h.imp fun before => rowMajor_ne before)
  exact List.inj_on_of_nodup_map nodup hc hd same

end order

namespace Placed

/-- A cell is stored under its own corner, and only there. -/
lemma stored?_eq_some_iff (h : s.Placed) :
    s.stored? p = some c ↔ c ∈ s.cells ∧ c.box.corner = p := by
  refine ⟨stored?_mem, fun ⟨hc, corner⟩ => ?_⟩
  cases stored : s.stored? p with
  | none => exact absurd (by simp [corner]) (List.find?_eq_none.1 stored c hc)
  | some d =>
    obtain ⟨hd, same⟩ := stored?_mem stored
    rw [h.ascending.eq_of_corner hd hc (same.trans corner.symm)]

/-- All points of a place lead to its corner. -/
lemma anchor_eq (h : s.Placed) (hb : s.HasPlace b) (inside : b.containsPoint p = true) :
    s.anchor p = b.corner := by
  unfold anchor
  cases around : s.spans.find? fun span => span.containsPoint p with
  | none =>
    obtain merged | ⟨q, rfl, -⟩ := hb
    · exact absurd inside (List.find?_eq_none.1 around b merged)
    · exact Box.containsPoint_unit.1 inside
  | some span =>
    have merged : span ∈ s.spans := List.mem_of_find?_eq_some around
    have within : span.containsPoint p = true := by simpa using List.find?_some around
    by_contra differ
    exact h.apart (.inl merged) hb (fun same => differ (by rw [same])) p within inside

/-- A point lies in the cell that it leads to. -/
lemma containsPoint_of_stored? (h : s.Placed) (stored : s.stored? (s.anchor p) = some c) :
    c.box.containsPoint p = true := by
  obtain ⟨hc, corner⟩ := stored?_mem stored
  have place := h.hasPlace c hc
  unfold anchor at corner
  cases around : s.spans.find? fun span => span.containsPoint p with
  | none =>
    rw [around] at corner
    exact (show c.box.corner = p from corner) ▸ Box.containsPoint_corner (h.nonempty place)
  | some span =>
    rw [around] at corner
    have merged : span ∈ s.spans := List.mem_of_find?_eq_some around
    rw [h.eq_of_corner place (.inl merged) corner]
    simpa using List.find?_some around

lemma cellAt?_eq_some_iff (h : s.Placed) :
    s.cellAt? p = some c ↔ c ∈ s.cells ∧ c.box.containsPoint p = true := by
  constructor
  · exact fun found => ⟨(stored?_mem found).1, h.containsPoint_of_stored? found⟩
  · intro ⟨hc, inside⟩
    have anchored := h.anchor_eq (h.hasPlace c hc) inside
    exact h.stored?_eq_some_iff.2 ⟨hc, anchored.symm⟩

/-- A text is stored under the corner that its point leads to. -/
lemma exists_store_of_set (h : s.Placed) (held : s.HoldsSpans) (p : Point) {text : String}
    (visible : Text.isBlankText text = false) :
    ∃ b : Box, b.corner = s.anchor p ∧ s.set p text = s.store ⟨text, b⟩ := by
  have inside : (((s.stored? (s.anchor p)).map (·.box)).getD (Box.unit p.x p.y)).containsPoint p =
      true := by
    cases stored : s.stored? (s.anchor p) with
    | none => exact Box.containsPoint_unit.2 rfl
    | some c => exact h.containsPoint_of_stored? stored
  refine ⟨_, (h.anchor_eq (h.hasPlace_written held p) inside).symm, ?_⟩
  rw [Sheet.set, visible]
  rfl

end Placed

/-- A point leads to a cell exactly if it lies in it. -/
theorem Made.cellAt?_eq_some_iff (made : s.Made) :
    s.cellAt? p = some c ↔ c ∈ s.cells ∧ c.box.containsPoint p = true :=
  made.placed.1.cellAt?_eq_some_iff

section reach

/-- No cell goes beyond the width and the height of the sheet. -/
def HasReach (s : Sheet) : Prop := ∀ c ∈ s.cells, c.box.right ≤ s.width ∧ c.box.bottom ≤ s.height

lemma HasReach.filter (h : s.HasReach) (kept : Cell → Bool) (spans : List Box) :
    HasReach { s with cells := s.cells.filter kept, spans } :=
  fun c hc => h c (List.mem_filter.1 hc).1

lemma HasReach.store (h : s.HasReach) (ascending : Ascending s.cells) (c : Cell) :
    (s.store c).HasReach := by
  intro d hd
  obtain rfl | ⟨old, -⟩ := (mem_insertCell ascending).1 hd
  · exact ⟨le_max_right _ _, le_max_right _ _⟩
  · obtain ⟨wide, high⟩ := h d old
    exact ⟨wide.trans (le_max_left _ _), high.trans (le_max_left _ _)⟩

lemma HasReach.set (h : s.HasReach) (placed : s.Placed) (p : Point) (text : String) :
    (s.set p text).HasReach := by
  unfold Sheet.set
  dsimp only
  split
  · split
    · exact h.filter _ s.spans
    · exact h
  · exact h.store placed.ascending _

lemma HasReach.merge (h : s.HasReach) (placed : s.Placed) (b : Box) : (s.merge b).HasReach := by
  unfold Sheet.merge
  split
  · exact (h.filter _ _).store (placed.ascending.filter _) _
  · exact h

lemma Made.hasReach (made : s.Made) : s.HasReach := by
  induction made with
  | empty => exact List.forall_mem_nil _
  | set made p text ih => exact ih.set made.placed.1 p text
  | merge made b ih => exact ih.merge made.placed.1 b

end reach

/-- On a sheet that is made by writing texts and merging boxes, whatever the order, the cells cover
grid points and have none in common, each of them is stored under its own corner and nowhere else,
and so is the next text that is written: its corner is the one to which its point leads. A point
leads to a cell exactly if it lies in it, and all cells lie within the width and the height. -/
theorem Made.faithful (made : s.Made) :
    s.cells.Pairwise (fun c d => c.box.Apart d.box) ∧
      (∀ c ∈ s.cells, c.box.isEmpty = false) ∧
      (∀ p c, s.stored? p = some c ↔ c ∈ s.cells ∧ c.box.corner = p) ∧
      (∀ p text, Text.isBlankText text = false →
        ∃ b : Box, b.corner = s.anchor p ∧ s.set p text = s.store ⟨text, b⟩) ∧
      (∀ p c, s.cellAt? p = some c ↔ c ∈ s.cells ∧ c.box.containsPoint p = true) ∧
      ∀ c ∈ s.cells, c.box.right ≤ s.width ∧ c.box.bottom ≤ s.height := by
  obtain ⟨placed, held⟩ := made.placed
  refine ⟨made.cells_apart, fun c hc => placed.nonempty (placed.hasPlace c hc), fun p c => ?_,
    fun p text visible => placed.exists_store_of_set held p visible,
    fun p c => made.cellAt?_eq_some_iff, made.hasReach⟩
  exact placed.stored?_eq_some_iff

/-- A title over two points, with a merge that is refused, a text that is written through its second
point, and a cell that is cleared. -/
theorem faithful_title :
    let s := (((((empty.set ⟨0, 0⟩ "T").set ⟨2, 0⟩ "x").merge ⟨0, 0, 2, 1⟩).merge
      ⟨1, 0, 1, 2⟩).set ⟨1, 0⟩ "Title").set ⟨2, 0⟩ " "
    s.Made ∧ s.cellAt? ⟨0, 0⟩ = some ⟨"Title", ⟨0, 0, 2, 1⟩⟩ ∧
      s.cellAt? ⟨1, 0⟩ = some ⟨"Title", ⟨0, 0, 2, 1⟩⟩ ∧ ∀ c, s.cellAt? ⟨2, 0⟩ ≠ some c := by
  intro s
  have made : s.Made :=
    ((((((Made.empty.set _ _).set _ _).merge _).merge _).set _ _).set _ _)
  have cells : s.cells = [⟨"Title", ⟨0, 0, 2, 1⟩⟩] := by decide +kernel
  have title : (⟨"Title", ⟨0, 0, 2, 1⟩⟩ : Cell) ∈ s.cells := cells ▸ List.mem_singleton_self _
  obtain ⟨-, -, -, -, leads, -⟩ := made.faithful
  refine ⟨made, (leads _ _).2 ⟨title, by decide⟩, (leads _ _).2 ⟨title, by decide⟩, ?_⟩
  intro c found
  obtain ⟨hc, inside⟩ := (leads _ _).1 found
  rw [cells, List.mem_singleton] at hc
  rw [hc] at inside
  exact absurd inside (by decide)

end SpatialGrammar.Sheet
