import SpatialGrammar.Conflict.Arrangement
import SpatialGrammar.Proofs.Conflict.IndexSet
import SpatialGrammar.Proofs.Conflict.Selection

/-!
# Growing arrangements

What an arrangement becomes when it grows by elements that are compatible with it. The invariant is
`Arrangement.Tracks`: the incompatible indices are those that clash with a member. Main statement:
`Arrangement.grow_extends`, growing reaches the union of both, unless the limit stops it.
-/

namespace SpatialGrammar

variable {n : Nat} {clashes : Clashes n} {G : SimpleGraph ℕ}

/-- The clashes are the edges of a graph. -/
def Describes (clashes : Clashes n) (G : SimpleGraph ℕ) : Prop :=
  ∀ i j, (clashes i).contains j = true ↔ G.Adj i j

namespace Arrangement

variable {a r : Arrangement n} {limit : Option Nat} {i : Nat} {e : Finset ℕ}

/-- The members of an arrangement as a finite set. -/
def selection (a : Arrangement n) : Finset ℕ := a.members.toFinset

@[simp] lemma selection_empty : (empty : Arrangement n).selection = ∅ :=
  IndexSet.toFinset_empty

@[simp] lemma card_selection (a : Arrangement n) : a.selection.card = a.size :=
  IndexSet.card_toFinset a.members

lemma reaches_eq_true_iff {size : Nat} :
    reaches limit size = true ↔ ∃ most ∈ limit, most ≤ size := by
  cases limit <;> simp [reaches]

lemma reaches_mono {small large : Nat} (h : reaches limit small = true) (le : small ≤ large) :
    reaches limit large = true := by
  rw [reaches_eq_true_iff] at h ⊢
  obtain ⟨most, hm, hle⟩ := h
  exact ⟨most, hm, hle.trans le⟩

/-- A part of an arrangement below the limit is below the limit. -/
lemma reaches_eq_false_of_subset (sub : a.selection ⊆ r.selection)
    (free : reaches limit r.size = false) : reaches limit a.size = false := by
  have le := Finset.card_le_card sub
  rw [card_selection, card_selection] at le
  exact Bool.eq_false_iff.2 fun full => by simp [reaches_mono full le] at free

/-- The incompatible indices of an arrangement are those that clash with a member. -/
def Tracks (clashes : Clashes n) (a : Arrangement n) : Prop :=
  ∀ j, a.incompatible.contains j = true ↔ ∃ i ∈ a.selection, (clashes i).contains j = true

lemma tracks_empty (clashes : Clashes n) : (empty : Arrangement n).Tracks clashes := by
  intro j
  simp only [selection_empty, Finset.notMem_empty, false_and, exists_false, iff_false]
  simp [empty]

lemma canAdd_iff (ha : a.Tracks clashes) :
    a.canAdd i = true ↔ i ∉ a.selection ∧ ∀ j ∈ a.selection, (clashes j).contains i = false := by
  have h := ha i
  simp only [canAdd, Bool.and_eq_true, Bool.not_eq_true', selection, IndexSet.mem_toFinset,
    Bool.not_eq_true] at h ⊢
  rw [← Bool.not_eq_true (a.incompatible.contains i), h]
  simp

lemma selection_of_canAdd (can : a.canAdd i = true) (hi : i < n) :
    (a.add clashes i).selection = insert i a.selection := by
  rw [add, if_pos can, selection, IndexSet.toFinset_insert _ hi, selection]

lemma add_of_not_canAdd (refused : a.canAdd i = false) : a.add clashes i = a := by
  rw [add, refused, if_neg Bool.false_ne_true]

lemma Tracks.add (ha : a.Tracks clashes) (hi : i < n) : (a.add clashes i).Tracks clashes := by
  cases can : a.canAdd i with
  | true =>
    intro j
    rw [selection_of_canAdd can hi, Arrangement.add, if_pos can, IndexSet.contains_union,
      Bool.or_eq_true, ha j, or_comm]
    simp only [Finset.mem_insert, exists_eq_or_imp]
  | false => rwa [add_of_not_canAdd can]

/-- An index that clashes with no member is added. -/
lemma selection_add (ha : a.Tracks clashes) (hG : Describes clashes G) (hi : i < n)
    (h : G.IsIndepSet (insert i a.selection : Finset ℕ)) :
    (a.add clashes i).selection = insert i a.selection := by
  by_cases mem : i ∈ a.selection
  · have no : a.canAdd i = false := by
      rw [Bool.eq_false_iff, ne_eq, canAdd_iff ha]
      exact fun h => h.1 mem
    rw [add_of_not_canAdd no, Finset.insert_eq_of_mem mem]
  · have can : a.canAdd i = true := by
      rw [canAdd_iff ha]
      refine ⟨mem, fun j hj => ?_⟩
      rw [Bool.eq_false_iff, ne_eq, hG]
      have ne : j ≠ i := fun e => mem (e ▸ hj)
      exact h (by simp [hj]) (by simp) ne
    exact selection_of_canAdd can hi

/-- What an arrangement becomes by growing: it keeps its members and gains some of the new ones, all
of them unless the limit is reached. -/
structure Extends (clashes : Clashes n) (limit : Option Nat) (a : Arrangement n) (e : Finset ℕ)
    (r : Arrangement n) : Prop where
  tracks : r.Tracks clashes
  lower : a.selection ⊆ r.selection
  upper : r.selection ⊆ a.selection ∪ e
  full : reaches limit r.size = true ∨ r.selection = a.selection ∪ e
  size_le : ∀ most ∈ limit, a.size ≤ most → r.size ≤ most

namespace Extends

lemma refl (ha : a.Tracks clashes) : Extends clashes limit a ∅ a :=
  ⟨ha, subset_rfl, by simp, .inr (by simp), fun _ _ le => le⟩

lemma selection_eq (h : Extends clashes limit a e r) (free : reaches limit r.size = false) :
    r.selection = a.selection ∪ e := by
  cases h.full with
  | inl full => simp [free] at full
  | inr full => exact full

/-- Growth that does not lead beyond the limit gains all new members. -/
lemma selection_eq_of_card_le (h : Extends clashes limit a e r)
    (le : ∀ most ∈ limit, (a.selection ∪ e).card ≤ most) : r.selection = a.selection ∪ e := by
  cases h.full with
  | inl full =>
    obtain ⟨most, hm, reached⟩ := reaches_eq_true_iff.1 full
    apply Finset.eq_of_subset_of_card_le h.upper
    rw [card_selection]
    exact (le most hm).trans reached
  | inr full => exact full

/-- Growing by some elements and then by others. -/
lemma trans {b : Arrangement n} {e' : Finset ℕ} (h : Extends clashes limit a e b)
    (h' : Extends clashes limit b e' r) : Extends clashes limit a (e ∪ e') r := by
  have upper : r.selection ⊆ a.selection ∪ (e ∪ e') := by
    rw [← Finset.union_assoc]
    exact h'.upper.trans (Finset.union_subset_union_left h.upper)
  refine ⟨h'.tracks, h.lower.trans h'.lower, upper, ?_,
    fun most hm le => h'.size_le most hm (h.size_le most hm le)⟩
  cases h'.full with
  | inl full => exact .inl full
  | inr eq' =>
    cases h.full with
    | inl full =>
      -- the limit that stopped the first growth has still been reached after the second one
      have le := Finset.card_le_card h'.lower
      rw [card_selection, card_selection] at le
      exact .inl (reaches_mono full le)
    | inr eq =>
      rw [eq', eq, Finset.union_assoc]
      exact .inr rfl

end Extends

/-- A single step of growth. -/
lemma extends_step (limit : Option Nat) (hG : Describes clashes G) (ha : a.Tracks clashes)
    (hi : i < n)
    (indep : G.IsIndepSet (insert i a.selection : Finset ℕ)) :
    Extends clashes limit a {i} (if reaches limit a.size then a else a.add clashes i) := by
  split
  next full => exact ⟨ha, subset_rfl, Finset.subset_union_left, .inl full, fun _ _ h => h⟩
  next room =>
    have added := selection_add ha hG hi indep
    have eq : (a.add clashes i).selection = a.selection ∪ {i} := by
      rw [added, Finset.insert_eq, Finset.union_comm]
    refine ⟨ha.add hi, eq ▸ Finset.subset_union_left, eq.subset, .inr eq, fun most hm _ => ?_⟩
    have lt : ¬ most ≤ a.size := fun le => room (reaches_eq_true_iff.2 ⟨most, hm, le⟩)
    have le := Finset.card_insert_le i a.selection
    rw [← added, card_selection, card_selection] at le
    omega

/-- Adding the indices of a list one by one, as growing does, extends an arrangement by them. -/
lemma foldl_add_extends (hG : Describes clashes G) {is : List Nat} (ha : a.Tracks clashes)
    (lt : ∀ i ∈ is, i < n) (indep : G.IsIndepSet (a.selection ∪ is.toFinset : Finset ℕ)) :
    Extends clashes limit a is.toFinset
      (is.foldl (fun a i => if reaches limit a.size then a else a.add clashes i) a) := by
  induction is generalizing a with
  | nil => exact Extends.refl ha
  | cons i rest ih =>
    rw [List.toFinset_cons, Finset.insert_eq] at indep ⊢
    have sub : insert i a.selection ⊆ a.selection ∪ ({i} ∪ rest.toFinset) := by
      rw [← Finset.union_assoc, Finset.union_comm a.selection, ← Finset.insert_eq]
      exact Finset.subset_union_left
    have step := extends_step limit hG ha (lt i List.mem_cons_self)
      (indep.mono (by exact_mod_cast sub))
    refine step.trans (ih step.tracks (fun j hj => lt j (List.mem_cons_of_mem i hj)) ?_)
    apply indep.mono
    rw [← Finset.union_assoc]
    exact_mod_cast Finset.union_subset_union_left step.upper

/-- Growing an arrangement by indices that are compatible with it and with each other. -/
lemma grow_extends (hG : Describes clashes G) {extra : IndexSet n} (ha : a.Tracks clashes)
    (indep : G.IsIndepSet (a.selection ∪ extra.toFinset : Finset ℕ)) :
    Extends clashes limit a extra.toFinset (a.grow clashes limit extra) := by
  apply foldl_add_extends hG ha _ indep
  intro i hi
  exact IndexSet.lt_of_contains (IndexSet.mem_toList.1 hi)

end Arrangement

end SpatialGrammar
