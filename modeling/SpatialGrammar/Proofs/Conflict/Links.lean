import SpatialGrammar.Conflict.Graph
import SpatialGrammar.Proofs.Conflict.IndexSet
import SpatialGrammar.Proofs.Conflict.OwnerTable

/-!
# The links of conflict graphs

What the elements of a graph clash with when the graph is built link by link. Main statements:
`contains_ofLinks`, the clashes are the links, whatever their order, and from it
`contains_ofRelation`, `contains_ofGroups` and `contains_ofComponents`, one for each way to tell
the links.
-/

namespace SpatialGrammar.ConflictGraph

variable {n : Nat} {g h : ConflictGraph n} {i j k l : Nat} {links : List (Nat × Nat)}

lemma clashes_of_le (le : n ≤ i) : g.clashes i = IndexSet.empty := by
  simp [clashes, Nat.not_lt.2 le]

/-- Graphs in which all elements clash with the same ones are equal. -/
lemma ext_clashes
    (same : ∀ i j, (g.clashes i).contains j = true ↔ (h.clashes i).contains j = true) : g = h := by
  obtain ⟨neighbours⟩ := g
  obtain ⟨neighbours'⟩ := h
  congr 1
  apply Vector.ext
  intro i hi
  apply IndexSet.ext
  intro j
  have at_i := same i j
  simp only [clashes, Vector.getElem?_eq_getElem hi, Option.getD_some] at at_i
  exact Bool.eq_iff_iff.2 at_i

lemma contains_unlinked : ¬ ((unlinked : ConflictGraph n).clashes i).contains j = true := by
  by_cases hi : i < n <;> simp [clashes, unlinked, hi]

lemma contains_link : ((g.link i j).clashes k).contains l = true ↔
    ((k, l) = (i, j) ∧ k < n ∧ l < n) ∨ (g.clashes k).contains l = true := by
  rw [Prod.mk.injEq]
  by_cases hk : k < n
  · by_cases here : i = k
    · simp [clashes, link, here, hk, eq_comm (a := j), or_comm]
    · simp [clashes, link, Vector.getElem?_setIfInBounds_ne here, Ne.symm here]
  · simp [clashes_of_le (Nat.le_of_not_lt hk), hk]

/-- The elements clash that are linked, in whatever order the links come. -/
lemma contains_ofLinks : ((ofLinks links : ConflictGraph n).clashes i).contains j = true ↔
    (i, j) ∈ links ∧ i < n ∧ j < n := by
  -- the graph from which the links start is generalised
  have added : ∀ g : ConflictGraph n,
      ((links.foldl (fun g l => g.link l.1 l.2) g).clashes i).contains j = true ↔
        ((i, j) ∈ links ∧ i < n ∧ j < n) ∨ (g.clashes i).contains j = true := by
    induction links with
    | nil => simp
    | cons link links ih =>
      intro g
      rw [List.foldl_cons, ih, contains_link, List.mem_cons, or_and_right, or_left_comm, or_assoc]
  rw [ofLinks, added, or_iff_left contains_unlinked]

lemma mem_pairs : (i, j) ∈ pairs n ↔ i < j ∧ j < n := by
  simp only [pairs, List.mem_flatMap, List.mem_range, List.mem_map, List.mem_range'_1,
    Prod.mk.injEq]
  constructor
  · rintro ⟨i, hi, j, ⟨lt, hj⟩, rfl, rfl⟩
    omega
  · rintro ⟨lt, hj⟩
    exact ⟨i, by omega, j, by omega, rfl, rfl⟩

/-- Going through the pairs of elements links each element to those to which it is related in
either order, except for itself. -/
lemma contains_ofRelation {related : Nat → Nat → Bool} :
    ((ofRelation related : ConflictGraph n).clashes i).contains j = true ↔
      i ≠ j ∧ (related i j = true ∨ related j i = true) ∧ i < n ∧ j < n := by
  have linked : ∀ k l,
      ((i, j) ∈ if related k l || related l k then [(k, l), (l, k)] else []) ↔
        ((i, j) = (k, l) ∨ (i, j) = (l, k)) ∧ (related k l = true ∨ related l k = true) := by
    intro k l
    split <;> simp_all
  rw [ofRelation, contains_ofLinks, List.mem_flatMap]
  simp only [Prod.exists, mem_pairs, linked, Prod.mk.injEq]
  constructor
  · rintro ⟨⟨k, l, ⟨lt, hl⟩, ⟨rfl, rfl⟩ | ⟨rfl, rfl⟩, rel⟩, hi, hj⟩
    · exact ⟨lt.ne, rel, hi, hj⟩
    · exact ⟨lt.ne', rel.symm, hi, hj⟩
  · rintro ⟨ne, rel, hi, hj⟩
    refine ⟨?_, hi, hj⟩
    rcases Nat.lt_or_gt_of_ne ne with lt | lt
    · exact ⟨i, j, ⟨lt, hj⟩, .inl ⟨rfl, rfl⟩, rel⟩
    · exact ⟨j, i, ⟨lt, hi⟩, .inr ⟨rfl, rfl⟩, rel.symm⟩

lemma mem_linksWithin {group : List Nat} :
    (i, j) ∈ linksWithin group ↔ i ≠ j ∧ i ∈ group ∧ j ∈ group := by
  simp only [linksWithin, List.mem_flatMap, List.mem_map, List.mem_filter, Prod.mk.injEq,
    bne_iff_ne]
  constructor
  · rintro ⟨i, hi, j, ⟨hj, ne⟩, rfl, rfl⟩
    exact ⟨ne, hi, hj⟩
  · rintro ⟨ne, hi, hj⟩
    exact ⟨i, hi, j, ⟨hj, ne⟩, rfl, rfl⟩

lemma contains_ofGroups {groups : List (List Nat)} :
    ((ofGroups groups : ConflictGraph n).clashes i).contains j = true ↔
      i ≠ j ∧ (∃ group ∈ groups, i ∈ group ∧ j ∈ group) ∧ i < n ∧ j < n := by
  rw [ofGroups, contains_ofLinks, List.mem_flatMap]
  simp only [mem_linksWithin]
  constructor
  · rintro ⟨⟨group, mem, ne, hi, hj⟩, lt⟩
    exact ⟨ne, ⟨group, mem, hi, hj⟩, lt⟩
  · rintro ⟨ne, ⟨group, mem, hi, hj⟩, lt⟩
    exact ⟨⟨group, mem, ne, hi, hj⟩, lt⟩

/-- The order of the groups does not matter. -/
lemma ofGroups_perm {groups groups' : List (List Nat)} (perm : groups.Perm groups') :
    (ofGroups groups : ConflictGraph n) = ofGroups groups' := by
  apply ext_clashes
  intro i j
  simp only [contains_ofGroups, perm.mem_iff]

lemma contains_ofComponents {κ : Type} [DecidableEq κ] {components : List (List κ)} :
    ((ofComponents components : ConflictGraph n).clashes i).contains j = true ↔
      i ≠ j ∧ (∃ c, (∃ cs ∈ components[i]?, c ∈ cs) ∧ ∃ cs ∈ components[j]?, c ∈ cs) ∧
        i < n ∧ j < n := by
  rw [ofComponents, contains_ofGroups, OwnerTable.exists_group_iff]
  simp only [OwnerTable.owns_ofComponents]

end SpatialGrammar.ConflictGraph
