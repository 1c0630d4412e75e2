import SpatialGrammar.Proofs.Plane.Box

/-!
# When boxes overlap

The test for an overlap asks for a corner of one box in the other one, or for a cross; the common
part is computed edge by edge. Main statement: `Box.overlap_exact`, both tell whether there is a
common grid point, and the points of the common part are the common points, row by row.
-/

namespace SpatialGrammar

variable {p q : Point}

/-- A point is read before another one: it lies in a higher row, or in the same row further to the
left. -/
def Point.ReadBefore (p q : Point) : Prop := p.y < q.y ∨ p.y = q.y ∧ p.x < q.x

lemma Point.ReadBefore.ne (h : p.ReadBefore q) : p ≠ q := by
  rintro rfl
  unfold Point.ReadBefore at h
  omega

namespace Box

variable {b c i : Box}

section points

/-- The points of a box are listed row by row, each row from the left. -/
lemma pairwise_points (b : Box) : b.points.Pairwise Point.ReadBefore := by
  refine List.pairwise_flatMap.2 ⟨fun j _ => ?_, ?_⟩
  · refine List.pairwise_map.2 (List.pairwise_lt_range.imp fun {i i'} lt => .inr ⟨rfl, ?_⟩)
    dsimp only
    omega
  · refine List.pairwise_lt_range.imp fun {j j'} lt p hp q hq => .inl ?_
    obtain ⟨i, -, rfl⟩ := List.mem_map.1 hp
    obtain ⟨i', -, rfl⟩ := List.mem_map.1 hq
    dsimp only
    omega

lemma nodup_points (b : Box) : b.points.Nodup := b.pairwise_points.imp Point.ReadBefore.ne

end points

section common

/-- The common part of two boxes consists of the common points. -/
lemma containsPoint_inter (h : b.inter? c = some i) :
    i.containsPoint p = true ↔ b.containsPoint p = true ∧ c.containsPoint p = true := by
  obtain ⟨⟨across, down⟩, eq⟩ := Option.ite_none_right_eq_some.1 h
  rw [← Option.some.inj eq, containsPoint_iff, right_ofEdges across.le, bottom_ofEdges down.le,
    containsPoint_iff, containsPoint_iff]
  dsimp only [ofEdges, ofSizes]
  omega

lemma isSome_inter?_iff : (b.inter? c).isSome = true ↔
    ∃ p, b.containsPoint p = true ∧ c.containsPoint p = true := by
  rw [← Option.ne_none_iff_isSome, ne_eq, inter?_eq_none_iff]
  simp only [Apart, not_forall, not_not, exists_prop]

end common

section corners

lemma mem_cornerPoints : p ∈ b.cornerPoints ↔
    (p.x = b.left ∨ p.x = b.right - 1) ∧ (p.y = b.top ∨ p.y = b.bottom - 1) := by
  obtain ⟨x, y⟩ := p
  simp only [cornerPoints, List.mem_cons, Point.mk.injEq, List.not_mem_nil, or_false]
  omega

lemma containsPoint_of_mem_cornerPoints (h : b.isEmpty = false) (mem : p ∈ b.cornerPoints) :
    b.containsPoint p = true := by
  rw [isEmpty_eq_false] at h
  rw [mem_cornerPoints] at mem
  rw [containsPoint_iff]
  unfold right bottom at mem ⊢
  omega

lemma isEmpty_eq_false_of_containsPoint (h : b.containsPoint p = true) : b.isEmpty = false := by
  rw [containsPoint_iff] at h
  rw [isEmpty_eq_false]
  unfold right bottom at h
  omega

/-- Of two stretches with something in common, one has an end of the other in it, or lies within the
other. -/
lemma exists_end_or_spans {l r l' r' x : Int} (h : l ≤ x ∧ x < r) (h' : l' ≤ x ∧ x < r') :
    (∃ e, (e = l' ∨ e = r' - 1) ∧ l ≤ e ∧ e < r) ∨ l' ≤ l ∧ r ≤ r' := by
  by_cases start : l ≤ l'
  · exact .inl ⟨l', .inl rfl, by omega⟩
  · by_cases stop : r' ≤ r
    · exact .inl ⟨r' - 1, .inr rfl, by omega⟩
    · exact .inr (by omega)

/-- The boxes form a cross: one has all columns of the other and the other all rows of the one. -/
def Crosses (b c : Box) : Prop := b.spansColumns c = true ∧ c.spansRows b = true

lemma overlaps_eq_true_iff : b.overlaps c = true ↔ b.isEmpty = false ∧ c.isEmpty = false ∧
    ((∃ p ∈ c.cornerPoints, b.containsPoint p = true) ∨
      (∃ p ∈ b.cornerPoints, c.containsPoint p = true) ∨ b.Crosses c ∨ c.Crosses b) := by
  unfold overlaps
  cases b.isEmpty <;> cases c.isEmpty <;> simp [Crosses, or_assoc]

/-- Boxes that form a cross meet where the one begins from the left and the other from the top. -/
lemma Crosses.exists_common (h : b.Crosses c) (filled : b.isEmpty = false)
    (filled' : c.isEmpty = false) :
    ∃ p, b.containsPoint p = true ∧ c.containsPoint p = true := by
  simp only [Crosses, spansColumns, spansRows, Bool.and_eq_true, decide_eq_true_eq] at h
  rw [isEmpty_eq_false] at filled filled'
  refine ⟨⟨c.left, b.top⟩, containsPoint_iff.2 ?_, containsPoint_iff.2 ?_⟩ <;>
  · unfold right bottom at *
    dsimp only
    omega

/-- Boxes with a common point have a corner in each other or form a cross. -/
lemma exists_corner_or_crosses (h : b.containsPoint p = true) (h' : c.containsPoint p = true) :
    (∃ q ∈ c.cornerPoints, b.containsPoint q = true) ∨
      (∃ q ∈ b.cornerPoints, c.containsPoint q = true) ∨ b.Crosses c ∨ c.Crosses b := by
  simp only [mem_cornerPoints, containsPoint_iff, Crosses, spansColumns, spansRows,
    Bool.and_eq_true, decide_eq_true_eq] at *
  obtain ⟨hl, hr, ht, hb⟩ := h
  obtain ⟨hl', hr', ht', hb'⟩ := h'
  -- an end of `c` lies in `b`, or `c` spans `b`, both along the rows and along the columns
  obtain ⟨x, endx, inx⟩ | wide := exists_end_or_spans ⟨hl, hr⟩ ⟨hl', hr'⟩ <;>
  obtain ⟨y, endy, iny⟩ | high := exists_end_or_spans ⟨ht, hb⟩ ⟨ht', hb'⟩
  · exact .inl ⟨⟨x, y⟩, ⟨endx, endy⟩, inx.1, inx.2, iny⟩
  · -- `c` spans the rows of `b`: either `b` ends within `c`, or `b` spans the columns of `c`
    obtain ⟨x, endx, inx⟩ | wide := exists_end_or_spans ⟨hl', hr'⟩ ⟨hl, hr⟩
    · exact .inr (.inl ⟨⟨x, b.top⟩, ⟨endx, .inl rfl⟩, inx.1, inx.2, by dsimp only; omega⟩)
    · exact .inr (.inr (.inl ⟨wide, high⟩))
  · obtain ⟨y, endy, iny⟩ | high := exists_end_or_spans ⟨ht', hb'⟩ ⟨ht, hb⟩
    · exact .inr (.inl ⟨⟨b.left, y⟩, ⟨.inl rfl, endy⟩, by dsimp only; omega⟩)
    · exact .inr (.inr (.inr ⟨wide, high⟩))
  · exact .inr (.inl ⟨⟨b.left, b.top⟩, ⟨.inl rfl, .inl rfl⟩, by dsimp only; omega⟩)

end corners

lemma overlaps_iff :
    b.overlaps c = true ↔ ∃ p, b.containsPoint p = true ∧ c.containsPoint p = true := by
  rw [overlaps_eq_true_iff]
  constructor
  · rintro ⟨filled, filled', ⟨p, corner, inside⟩ | ⟨p, corner, inside⟩ | cross | cross⟩
    · exact ⟨p, inside, containsPoint_of_mem_cornerPoints filled' corner⟩
    · exact ⟨p, containsPoint_of_mem_cornerPoints filled corner, inside⟩
    · exact cross.exists_common filled filled'
    · obtain ⟨p, hc, hb⟩ := cross.exists_common filled' filled
      exact ⟨p, hb, hc⟩
  · rintro ⟨p, hb, hc⟩
    exact ⟨isEmpty_eq_false_of_containsPoint hb, isEmpty_eq_false_of_containsPoint hc,
      exists_corner_or_crosses hb hc⟩

/-- Two boxes overlap exactly if they have a common part and exactly if they have a common grid
point, whichever comes first. The points of the common part are the common points, each of them
once, row by row and from left to right in each row. -/
theorem overlap_exact (b c : Box) :
    (b.overlaps c = true ↔ ∃ p, b.containsPoint p = true ∧ c.containsPoint p = true) ∧
    b.overlaps c = (b.inter? c).isSome ∧ b.overlaps c = c.overlaps b ∧
    ∀ i, b.inter? c = some i → i.points.Pairwise Point.ReadBefore ∧ i.points.Nodup ∧
      ∀ p, p ∈ i.points ↔ p ∈ b.points ∧ p ∈ c.points := by
  refine ⟨overlaps_iff, ?_, ?_, fun i h => ⟨i.pairwise_points, i.nodup_points, fun p => ?_⟩⟩
  · rw [Bool.eq_iff_iff, overlaps_iff, isSome_inter?_iff]
  · rw [Bool.eq_iff_iff, overlaps_iff, overlaps_iff]
    exact exists_congr fun p => and_comm
  · rw [mem_points, mem_points, mem_points, containsPoint_inter h]

/-- A row and a column that cross without a corner in each other have one point in common. -/
theorem overlap_exact_cross :
    let row : Box := ⟨0, 2, 10, 1⟩
    let column : Box := ⟨4, 0, 1, 10⟩
    row.inter? column = some (unit 4 2) ∧
      ∀ p, p ∈ (unit 4 2).points ↔ p ∈ row.points ∧ p ∈ column.points := by
  intro row column
  obtain ⟨-, -, -, common⟩ := overlap_exact row column
  have met : row.inter? column = some (unit 4 2) := by decide
  exact ⟨met, (common _ met).2.2⟩

end Box

end SpatialGrammar
