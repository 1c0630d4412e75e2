import Mathlib.Data.Finset.Sort
import SpatialGrammar.Conflict.IndexSet
import SpatialGrammar.Proofs.Conflict.Block

/-!
# Index sets as finite sets

The finite set of the members of an index set (`toFinset`), and what the operations on index sets do
to it. Main statements: `toFinset_injective`, equal members are equal sets, and `toList_eq_sort`,
the members are listed in ascending order.
-/

namespace SpatialGrammar.IndexSet

variable {n : Nat} {s t : IndexSet n} {i j : Nat}

/-- The members as a finite set. -/
def toFinset (s : IndexSet n) : Finset ℕ := s.toList.toFinset

@[simp] lemma mem_toFinset : i ∈ s.toFinset ↔ s.contains i = true := by
  rw [toFinset, List.mem_toFinset, mem_toList]

/-- Sets with the same members are equal. -/
lemma toFinset_injective : Function.Injective (toFinset : IndexSet n → Finset ℕ) := by
  intro s t e
  apply ext
  intro i
  have h : s.contains i = true ↔ t.contains i = true := by rw [← mem_toFinset, e, mem_toFinset]
  exact Bool.eq_iff_iff.2 h

/-- The members belong to the universe. -/
lemma toFinset_subset_range (s : IndexSet n) : s.toFinset ⊆ Finset.range n := by
  intro i hi
  exact Finset.mem_range.2 (lt_of_contains (mem_toFinset.1 hi))

@[simp] lemma toFinset_empty : (empty : IndexSet n).toFinset = ∅ := by
  ext i
  simp

@[simp] lemma toFinset_union (s t : IndexSet n) :
    (s.union t).toFinset = s.toFinset ∪ t.toFinset := by
  ext i
  simp

@[simp] lemma toFinset_inter (s t : IndexSet n) :
    (s.inter t).toFinset = s.toFinset ∩ t.toFinset := by
  ext i
  simp

@[simp] lemma toFinset_diff (s t : IndexSet n) : (s.diff t).toFinset = s.toFinset \ t.toFinset := by
  ext i
  simp

@[simp] lemma toFinset_erase (s : IndexSet n) (i : Nat) :
    (s.erase i).toFinset = s.toFinset.erase i := by
  ext j
  simp only [mem_toFinset, contains_erase, Bool.and_eq_true, Bool.not_eq_true',
    decide_eq_false_iff_not, Finset.mem_erase]
  exact ⟨fun h => ⟨fun e => h.2 e.symm, h.1⟩, fun h => ⟨h.2, fun e => h.1 e.symm⟩⟩

/-- An index of the universe is added. -/
lemma toFinset_insert (s : IndexSet n) (hi : i < n) :
    (s.insert i).toFinset = Insert.insert i s.toFinset := by
  ext j
  simp only [mem_toFinset, contains_insert, Bool.or_eq_true, Bool.and_eq_true, decide_eq_true_eq,
    Finset.mem_insert]
  constructor
  · rintro (h | ⟨h, -⟩)
    · exact .inr h
    · exact .inl h.symm
  · rintro (rfl | h)
    · exact .inr ⟨rfl, hi⟩
    · exact .inl h

/-- Adding the indices of a list adds those that belong to the universe. -/
lemma contains_foldl_insert {is : List Nat} :
    (is.foldl insert s).contains i = true ↔ s.contains i = true ∨ (i ∈ is ∧ i < n) := by
  induction is generalizing s with
  | nil => simp
  | cons j js ih =>
    rw [List.foldl_cons, ih]
    simp only [contains_insert, Bool.or_eq_true, Bool.and_eq_true, decide_eq_true_eq,
      List.mem_cons, eq_comm (a := j)]
    tauto

lemma contains_ofList {is : List Nat} :
    (ofList is : IndexSet n).contains i = true ↔ i ∈ is ∧ i < n := by
  simp [ofList, contains_foldl_insert]

@[simp] lemma toFinset_full : (full : IndexSet n).toFinset = Finset.range n := by
  ext i
  simp [full, contains_ofList]

/-- The members are listed in ascending order: block by block, and in each block by places. -/
lemma sortedLT_toList (s : IndexSet n) : s.toList.SortedLT := by
  apply List.Pairwise.sortedLT
  rw [toList, List.pairwise_flatMap]
  constructor
  · rintro ⟨b, w⟩ -
    refine List.pairwise_map.2 ((Block.sortedLT_places b).pairwise.imp fun lt => ?_)
    exact Nat.add_lt_add_left lt _
  · have numbered : s.blocks.zipIdx.Pairwise fun p q => p.2 < q.2 := by
      rw [← List.pairwise_map, List.zipIdx_map_snd]
      exact List.pairwise_lt_range'
    refine numbered.imp ?_
    rintro ⟨b, w⟩ ⟨c, v⟩ lt i hi j hj
    obtain ⟨k, hk, rfl⟩ := List.mem_map.1 hi
    obtain ⟨l, -, rfl⟩ := List.mem_map.1 hj
    have := BitVec.lt_of_getLsbD (Block.mem_places.1 hk)
    simp only at lt
    omega

lemma toList_eq_sort (s : IndexSet n) : s.toList = s.toFinset.sort := by
  refine (Finset.sortedLT_sort _).eq_of_mem_iff (sortedLT_toList s) ?_ |>.symm
  intro i
  simp [mem_toList]

lemma size_eq_length (s : IndexSet n) : s.size = s.toList.length := by
  have total : s.size = (s.blocks.map Block.count).sum := by
    rw [size, List.sum_eq_foldr, List.foldr_map]
  rw [total, toList, List.length_flatMap]
  simp only [List.length_map, Block.length_places]
  have counts := congrArg (List.map Block.count) (List.zipIdx_map_fst 0 s.blocks)
  rw [List.map_map] at counts
  exact congrArg List.sum counts.symm

@[simp] lemma card_toFinset (s : IndexSet n) : s.toFinset.card = s.size := by
  rw [size_eq_length]
  exact List.toFinset_card_of_nodup (sortedLT_toList s).pairwise.nodup

lemma isEmpty_iff : s.isEmpty = true ↔ s.toFinset = ∅ := by
  have h : s.isEmpty = true ↔ s = empty := by
    rcases s with ⟨blocks, length, _⟩
    simp [isEmpty, empty, List.eq_replicate_iff, length]
  rw [h, ← toFinset_empty (n := n)]
  exact toFinset_injective.eq_iff.symm

/-- Testing the blocks of two sets against each other is testing the joined blocks. -/
lemma all_zip_eq_isEmpty {op : Block → Block → Block} {on : Bool → Bool → Bool}
    (h : Block.Placewise op on) (s t : IndexSet n) :
    ((s.blocks.zip t.blocks).all fun (a, b) => op a b == 0#64) = (s.join h t).isEmpty := by
  have joined : (s.join h t).blocks = List.zipWith op s.blocks t.blocks := rfl
  rw [isEmpty, joined, ← List.map_uncurry_zip_eq_zipWith, List.all_map]
  rfl

lemma isDisjoint_iff : s.isDisjoint t = true ↔ Disjoint s.toFinset t.toFinset := by
  have h : s.isDisjoint t = (s.inter t).isEmpty := all_zip_eq_isEmpty Block.placewise_and s t
  rw [h, isEmpty_iff, toFinset_inter, Finset.disjoint_iff_inter_eq_empty]

lemma isSubset_iff : s.isSubset t = true ↔ s.toFinset ⊆ t.toFinset := by
  have h : s.isSubset t = (s.diff t).isEmpty := all_zip_eq_isEmpty Block.placewise_without s t
  rw [h, isEmpty_iff, toFinset_diff, Finset.sdiff_eq_empty_iff_subset]

/-- The first block with a one holds the first of all places with ones. -/
lemma find?_zipIdx_eq_head? (bs : List Block) (start : Nat) :
    ((bs.zipIdx start).find? fun (b, _) => b != 0#64).map (fun (b, w) => w * 64 + b.lowest) =
      ((bs.zipIdx start).flatMap fun (b, w) => b.places.map fun k => w * 64 + k).head? := by
  induction bs generalizing start with
  | nil => rfl
  | cons b bs ih =>
    rw [List.zipIdx_cons, List.find?_cons, List.flatMap_cons]
    by_cases h : b = 0#64
    · simpa [h] using ih (start + 1)
    · have found : (b != 0#64) = true := bne_iff_ne.2 h
      simp [found, Block.places_of_ne h]

lemma first?_eq_head? (s : IndexSet n) : s.first? = s.toList.head? :=
  find?_zipIdx_eq_head? s.blocks 0

/-- A set without a least member is empty. -/
lemma toFinset_eq_empty_of_first? (h : s.first? = none) : s.toFinset = ∅ := by
  rw [first?_eq_head?, List.head?_eq_none_iff] at h
  rw [toFinset, h, List.toFinset_nil]

lemma mem_of_first? (h : s.first? = some i) : i ∈ s.toFinset := by
  rw [first?_eq_head?] at h
  exact mem_toFinset.2 (mem_toList.1 (List.mem_of_head? h))

end SpatialGrammar.IndexSet
