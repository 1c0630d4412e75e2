import Mathlib
import SpatialGrammar.Proofs.Order.Distinct
import SpatialGrammar.Proofs.Recognition.Cluster
import SpatialGrammar.Recognition.Arrays

/-!
# Items are divided into lines

Items are sorted by the coordinate that the items of a line share and then along the line, and this
sequence is cut wherever an item does not follow the one in front of it. Main statements:
`isLine_of_mem_lines`, `lines_perm` and `lines_divide`.
-/

namespace SpatialGrammar.Recognition.Cluster

variable {ι : Type} {box : ι → Box} {gap : Interval} {s : Side} {items part : List ι} {i : ι}
variable {level : Int}

/-- Items that share a coordinate and follow each other along a side with admissible gaps. -/
structure IsLine (box : ι → Box) (gap : Interval) (s : Side) (items : List ι) : Prop where
  level : ∀ i ∈ items, ∀ j ∈ items, crossCoordinate s (box i) = crossCoordinate s (box j)
  ordered : items.Pairwise fun i j => alongCoordinate s (box i) ≤ alongCoordinate s (box j)
  unbroken : items.IsChain fun i j => isAdjacent gap s (box i) (box j) = true

/-- Items without a hole between them make up a line within a line. -/
lemma IsLine.within (line : IsLine box gap s items) (h : part <:+: items) :
    IsLine box gap s part where
  level i hi j hj := line.level i (h.subset hi) j (h.subset hj)
  ordered := line.ordered.sublist h.sublist
  unbroken := List.IsChain.infix line.unbroken h

section levels

/-- The coordinates that the items of lines share, in ascending order. -/
def levels (box : ι → Box) (s : Side) (items : List ι) : List Int :=
  Distinct.ofList (fun a b => decide (a < b)) (items.map fun i => crossCoordinate s (box i))

lemma lines_eq_flatMap (box : ι → Box) (gap : Interval) (s : Side) (items : List ι) :
    lines box gap s items = (levels box s items).flatMap fun level =>
      (lineAt box s items level).splitBy fun i j => isAdjacent gap s (box i) (box j) := rfl

lemma levels_ascend (box : ι → Box) (s : Side) (items : List ι) :
    (levels box s items).Pairwise (· < ·) := by
  have ascending := Distinct.pairwise_ofList (fun a b : Int => decide (a < b))
    (fun a b c hab hbc => by
      rw [decide_eq_true_eq] at hab hbc ⊢
      exact hab.trans hbc)
    (fun a b ne => by
      rw [decide_eq_true_eq, decide_eq_true_eq]
      exact ne.lt_or_gt)
    (items.map fun i => crossCoordinate s (box i))
  exact ascending.imp of_decide_eq_true

lemma mem_lineAt : i ∈ lineAt box s items level ↔
    i ∈ items ∧ crossCoordinate s (box i) = level := by
  rw [lineAt, List.mem_mergeSort, List.mem_filter, beq_iff_eq]

lemma lineAt_sorted (box : ι → Box) (s : Side) (items : List ι) (level : Int) :
    (lineAt box s items level).Pairwise fun i j =>
      alongCoordinate s (box i) ≤ alongCoordinate s (box j) := by
  have sorted : (lineAt box s items level).Pairwise fun i j =>
      decide (alongCoordinate s (box i) ≤ alongCoordinate s (box j)) = true := by
    apply List.pairwise_mergeSort
    · intro i j k
      simp only [decide_eq_true_eq]
      exact le_trans
    · intro i j
      simp only [Bool.or_eq_true, decide_eq_true_eq]
      exact le_total _ _
  exact sorted.imp of_decide_eq_true

lemma lineAt_ne_nil (h : level ∈ levels box s items) : lineAt box s items level ≠ [] := by
  obtain ⟨i, hi, at_level⟩ := List.mem_map.1 (Distinct.mem_ofList.1 h)
  exact List.ne_nil_of_mem (mem_lineAt.2 ⟨hi, at_level⟩)

/-- Whatever is related across levels makes up one chain if it is a chain on each level. -/
lemma isChain_flatMap_levels {β : Type} {f : Int → List β} {R : β → β → Prop}
    (some_item : ∀ level ∈ levels box s items, f level ≠ [])
    (across : ∀ a b, a < b → ∀ x ∈ f a, ∀ y ∈ f b, R x y) :
    ((levels box s items).flatMap f).IsChain R ↔
      ∀ level ∈ levels box s items, (f level).IsChain R := by
  have nonempty : [] ∉ (levels box s items).map f := fun mem => by
    obtain ⟨level, listed, empty⟩ := List.mem_map.1 mem
    exact some_item level listed empty
  have between : ((levels box s items).map f).IsChain fun xs ys =>
      ∀ x ∈ xs.getLast?, ∀ y ∈ ys.head?, R x y := by
    apply (List.isChain_map f).2
    refine (levels_ascend box s items).isChain.imp fun a b lt x hx y hy => ?_
    exact across a b lt x (List.mem_of_getLast? hx) y (List.mem_of_head? hy)
  rw [List.flatMap_def, List.isChain_flatten nonempty, List.forall_mem_map]
  exact and_iff_left between

end levels

/-- Items are collected into lines. -/
lemma isLine_of_mem_lines (h : part ∈ lines box gap s items) : IsLine box gap s part := by
  rw [lines_eq_flatMap] at h
  obtain ⟨level, -, mem⟩ := List.mem_flatMap.1 h
  have within := sublist_of_mem_splitBy mem
  have at_level : ∀ i ∈ part, crossCoordinate s (box i) = level := fun i hi =>
    (mem_lineAt.1 (within.subset hi)).2
  exact {
    level := fun i hi j hj => (at_level i hi).trans (at_level j hj).symm
    ordered := (lineAt_sorted box s items level).sublist within
    unbroken := List.isChain_of_mem_splitBy mem }

section division

/-- One item comes in front of another: its line does, or it does on the line of both. -/
def Precedes (box : ι → Box) (s : Side) (i j : ι) : Prop :=
  crossCoordinate s (box i) < crossCoordinate s (box j) ∨
    crossCoordinate s (box i) = crossCoordinate s (box j) ∧
      alongCoordinate s (box i) ≤ alongCoordinate s (box j)

/-- Lines into which items are divided. Lines on one level are next to each other and could not be
joined: the last item of one is not followed by the first item of the next. -/
structure IsDivision (box : ι → Box) (gap : Interval) (s : Side) (items : List ι)
    (parts : List (List ι)) : Prop where
  whole : parts.flatten.Perm items
  nonempty : [] ∉ parts
  line : ∀ part ∈ parts, IsLine box gap s part
  ordered : parts.flatten.Pairwise (Precedes box s)
  maximal : parts.IsChain fun part next => ∀ i ∈ part.getLast?, ∀ j ∈ next.head?,
    crossCoordinate s (box i) = crossCoordinate s (box j) → isAdjacent gap s (box i) (box j) = false

lemma flatten_lines (box : ι → Box) (gap : Interval) (s : Side) (items : List ι) :
    (lines box gap s items).flatten = (levels box s items).flatMap (lineAt box s items) := by
  rw [lines_eq_flatMap, ← List.flatMap_id, List.flatMap_assoc]
  apply List.flatMap_congr
  intro level _
  rw [List.flatMap_id, List.flatten_splitBy]

/-- No item is lost or repeated. -/
theorem lines_perm (box : ι → Box) (gap : Interval) (s : Side) (items : List ι) :
    (lines box gap s items).flatten.Perm items := by
  rw [flatten_lines]
  have sorted : ((levels box s items).flatMap (lineAt box s items)).Perm
      ((levels box s items).flatMap fun level =>
        items.filter fun i => crossCoordinate s (box i) == level) :=
    List.Perm.flatMap_left _ fun level _ => List.mergeSort_perm _ _
  have distinct := (levels_ascend box s items).imp fun lt => lt.ne
  refine sorted.trans (Distinct.flatMap_filter_perm distinct _ items fun i hi => ?_)
  exact Distinct.mem_ofList.2 (List.mem_map_of_mem hi)

lemma nil_notMem_lines (box : ι → Box) (gap : Interval) (s : Side) (items : List ι) :
    [] ∉ lines box gap s items := by
  rw [lines_eq_flatMap]
  intro mem
  obtain ⟨level, -, empty⟩ := List.mem_flatMap.1 mem
  exact List.nil_notMem_splitBy _ _ empty

lemma lines_ordered (box : ι → Box) (gap : Interval) (s : Side) (items : List ι) :
    (lines box gap s items).flatten.Pairwise (Precedes box s) := by
  rw [flatten_lines, List.pairwise_flatMap]
  constructor
  · intro level _
    refine (lineAt_sorted box s items level).imp_of_mem fun {i j} hi hj along => .inr ⟨?_, along⟩
    exact (mem_lineAt.1 hi).2.trans (mem_lineAt.1 hj).2.symm
  · refine (levels_ascend box s items).imp fun {a b} lt i hi j hj => .inl ?_
    rwa [(mem_lineAt.1 hi).2, (mem_lineAt.1 hj).2]

/-- Lines are cut only where an item does not follow the one in front of it. -/
lemma lines_maximal (box : ι → Box) (gap : Interval) (s : Side) (items : List ι) :
    (lines box gap s items).IsChain fun part next => ∀ i ∈ part.getLast?, ∀ j ∈ next.head?,
      crossCoordinate s (box i) = crossCoordinate s (box j) →
        isAdjacent gap s (box i) (box j) = false := by
  have at_level {level : Int} {part : List ι} {i : ι} (h : part ∈ (lineAt box s items level).splitBy
      fun i j => isAdjacent gap s (box i) (box j)) (hi : i ∈ part) :
      crossCoordinate s (box i) = level :=
    (mem_lineAt.1 ((sublist_of_mem_splitBy h).subset hi)).2
  rw [lines_eq_flatMap, isChain_flatMap_levels]
  -- within a level, lines end where the sequence has been cut
  · intro level _
    refine (List.isChain_getLast_head_splitBy _ _).imp fun part next h i hi j hj _ => ?_
    obtain ⟨some_last, some_head, cut⟩ := h
    rw [List.getLast?_eq_some_getLast some_last, Option.mem_some_iff] at hi
    rw [List.head?_eq_some_head some_head, Option.mem_some_iff] at hj
    rwa [← hi, ← hj]
  · intro level mem
    exact List.splitBy_ne_nil.2 (lineAt_ne_nil mem)
  -- lines of two levels share no coordinate
  · intro a b lt part hpart next hnext i hi j hj same
    rw [at_level hpart (List.mem_of_getLast? hi), at_level hnext (List.mem_of_head? hj)] at same
    exact absurd same lt.ne

lemma isDivision_lines (box : ι → Box) (gap : Interval) (s : Side) (items : List ι) :
    IsDivision box gap s items (lines box gap s items) where
  whole := lines_perm box gap s items
  nonempty := nil_notMem_lines box gap s items
  line _ := isLine_of_mem_lines
  ordered := lines_ordered box gap s items
  maximal := lines_maximal box gap s items

end division

section words

lemma eachNext_iff {fits : ι → ι → Bool} :
    eachNext fits items = true ↔ items.IsChain fun i j => fits i j = true := by
  fun_induction eachNext fits items with
  | case1 i j rest ih => rw [Bool.and_eq_true, ih, List.isChain_cons_cons]
  | case2 items short =>
    match items with
    | [] => simp
    | [i] => simp
    | i :: j :: rest => exact absurd rfl (short i j rest)

lemma adjacencyWorkings_singleton (gap : Interval) (s : Side) (b c : Box) :
    adjacencyWorkings gap b c [s] = b.directionalGapWorkings c s := by
  rw [adjacencyWorkings, adjacencyWorkings, ite_self, List.append_nil]

/-- The comparisons that lead to lines are those of an item with the next one on its level. -/
lemma linesFit_iff : linesFit box gap s items = true ↔
    (lines box gap s items).flatten.IsChain fun i j =>
      crossCoordinate s (box i) = crossCoordinate s (box j) →
        Word.holdsAll ((box i).directionalGapWorkings (box j) s) = true := by
  have on_level : ∀ level, eachNext (fun i j =>
      Word.holdsAll (adjacencyWorkings gap (box i) (box j) [s])) (lineAt box s items level) = true ↔
        (lineAt box s items level).IsChain fun i j =>
          crossCoordinate s (box i) = crossCoordinate s (box j) →
            Word.holdsAll ((box i).directionalGapWorkings (box j) s) = true := by
    intro level
    rw [eachNext_iff]
    apply List.IsChain.iff_of_mem_imp
    intro i j hi hj
    have same := (mem_lineAt.1 hi).2.trans (mem_lineAt.1 hj).2.symm
    rw [adjacencyWorkings_singleton]
    exact ⟨fun fits _ => fits, fun fits => fits same⟩
  rw [flatten_lines, isChain_flatMap_levels (fun _ => lineAt_ne_nil)]
  · change (levels box s items).all _ = true ↔ _
    rw [List.all_eq_true]
    exact forall₂_congr fun level _ => on_level level
  · intro a b lt i hi j hj same
    rw [(mem_lineAt.1 hi).2, (mem_lineAt.1 hj).2] at same
    exact absurd same lt.ne

end words

/-- Items are divided into lines. The calculations that lead to these leave the words just if the
comparison of an item with the next one on its level does. -/
theorem lines_divide (box : ι → Box) (gap : Interval) (s : Side) (items : List ι) :
    IsDivision box gap s items (lines box gap s items) ∧
      (linesFit box gap s items = true ↔
        (lines box gap s items).flatten.IsChain fun i j =>
          crossCoordinate s (box i) = crossCoordinate s (box j) →
            Word.holdsAll ((box i).directionalGapWorkings (box j) s) = true) :=
  ⟨isDivision_lines box gap s items, linesFit_iff⟩

section witness

/-- A scene with two digits in a row, so far apart that the gap between them is not a word. -/
def farDigits : Scene ℚ where
  grammar := {
    patterns := ⟨[("digit", { name := "digit", kind := .cell "d" })]⟩
    root := "digit"
    cellTypes := ⟨[("d", ["[0-9]"])]⟩
    options := Options.standard
    ancestors := ⟨[("digit", [])]⟩
    waves := [["digit"]] }
  options := Options.standard
  cells := []
  registry := [Word.least, 10].foldl
    (fun r x => r.register (.cell "digit" (Box.unit x 0) "1" "d" 1) []) Registry.empty

/-- Two far digits make up a line each, but they cannot be compared, so that there is no result. -/
theorem lines_out_of_words :
    let shape : ArrayShape := { item := "digit", layout := .row }
    let items := farDigits.registry.namedIn "digit" none
    (lines Match.box shape.gap .right items).map (·.map Match.box) =
        [[Box.unit Word.least 0], [Box.unit 10 0]] ∧
      linesFit Match.box shape.gap .right items = false ∧
      arrayCandidates farDigits { name := "row", kind := .array shape } shape false none =
        .error .overflow := by
  refine ⟨?_, ?_, ?_⟩
  · cbv
  · cbv
  · cbv

end witness

end SpatialGrammar.Recognition.Cluster
