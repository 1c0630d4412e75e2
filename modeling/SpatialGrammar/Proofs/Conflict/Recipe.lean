import Mathlib.Order.Bounds.Basic
import SpatialGrammar.Proofs.Conflict.IndexSet

/-!
# How index sets are made

A recipe makes an index set from the empty one by adding, taking away and joining, and says at the
same time which members it is to have. Main statements: `toFinset_make`, it has them, and
`Recipe.make_exact`, whatever is asked of the set is answered as for a finite set with these members.
-/

namespace SpatialGrammar.IndexSet

variable {n : Nat} {s t : IndexSet n} {i : Nat}

/-- The least member is the first one listed. -/
lemma first?_eq_some_iff : s.first? = some i ↔ IsLeast (s.toFinset : Set ℕ) i := by
  have sorted := (sortedLT_toList s).pairwise
  have mem : ∀ j, j ∈ s.toFinset ↔ j ∈ s.toList := fun j => mem_toFinset.trans mem_toList.symm
  simp only [first?_eq_head?, IsLeast, lowerBounds, Set.mem_ofPred_eq, Finset.mem_coe, mem]
  cases listed : s.toList with
  | nil => simp
  | cons first rest =>
    rw [listed, List.pairwise_cons] at sorted
    simp only [List.head?_cons, Option.some.injEq, List.mem_cons]
    constructor
    · rintro rfl
      refine ⟨.inl rfl, ?_⟩
      rintro j (rfl | hj)
      · exact le_rfl
      · exact (sorted.1 j hj).le
    · rintro ⟨rfl | hi, least⟩
      · rfl
      · exact absurd (sorted.1 i hi) (least (.inl rfl)).not_gt

lemma isStrictSubset_iff : s.isStrictSubset t = true ↔ s.toFinset ⊂ t.toFinset := by
  rw [isStrictSubset, Bool.and_eq_true, bne_iff_ne, isSubset_iff, Finset.ssubset_iff_subset_ne,
    and_comm, ne_eq, ne_eq, toFinset_injective.eq_iff]

/-- How a set of indices is made. -/
inductive Recipe (n : Nat) where
  | empty
  | full
  | add (r : Recipe n) (i : Fin n)
  /-- What is taken away may lie outside the universe. -/
  | remove (r : Recipe n) (i : Nat)
  | union (r q : Recipe n)
  | inter (r q : Recipe n)
  | diff (r q : Recipe n)

namespace Recipe

/-- The set that is made. -/
def make : Recipe n → IndexSet n
  | empty => IndexSet.empty
  | full => IndexSet.full
  | add r i => (r.make.add i).2
  | remove r i => (r.make.remove i).2
  | union r q => r.make.union q.make
  | inter r q => r.make.inter q.make
  | diff r q => r.make.diff q.make

/-- The members that the set is to have. -/
def members : Recipe n → Finset ℕ
  | empty => ∅
  | full => Finset.range n
  | add r i => Insert.insert (i : ℕ) r.members
  | remove r i => r.members.erase i
  | union r q => r.members ∪ q.members
  | inter r q => r.members ∩ q.members
  | diff r q => r.members \ q.members

/-- The set that is made has the members that it is to have. -/
theorem toFinset_make (r : Recipe n) : r.make.toFinset = r.members := by
  induction r with
  | empty => exact toFinset_empty
  | full => exact toFinset_full
  | add r i ih => rw [make, IndexSet.add, toFinset_insert _ i.isLt, ih, members]
  | remove r i ih => rw [make, IndexSet.remove, toFinset_erase, ih, members]
  | union r q ihr ihq => rw [make, toFinset_union, ihr, ihq, members]
  | inter r q ihr ihq => rw [make, toFinset_inter, ihr, ihq, members]
  | diff r q ihr ihq => rw [make, toFinset_diff, ihr, ihq, members]

/-- A set is, in all that can be asked of it, the finite set of the members that its recipe gives
it. Adding an index of the universe tells whether it is new, and taking away any index tells whether
it was there. Sets are equal if their members are. -/
theorem make_exact (r q : Recipe n) :
    (∀ i, r.make.contains i = true ↔ i ∈ r.members) ∧
      r.make.size = r.members.card ∧
      (r.make.isEmpty = true ↔ r.members = ∅) ∧
      (∀ i, r.make.first? = some i ↔ IsLeast (r.members : Set ℕ) i) ∧
      r.make.toList = r.members.sort ∧
      (r.make.isDisjoint q.make = true ↔ Disjoint r.members q.members) ∧
      (r.make.isSubset q.make = true ↔ r.members ⊆ q.members) ∧
      (r.make.isStrictSubset q.make = true ↔ r.members ⊂ q.members) ∧
      (∀ i : Fin n, (r.make.add i).1 = true ↔ (i : ℕ) ∉ r.members) ∧
      (∀ i, (r.make.remove i).1 = true ↔ i ∈ r.members) ∧
      (r.make = q.make ↔ r.members = q.members) := by
  rw [← toFinset_make r, ← toFinset_make q]
  refine ⟨fun i => mem_toFinset.symm, (card_toFinset _).symm, isEmpty_iff,
    fun i => first?_eq_some_iff, toList_eq_sort _, isDisjoint_iff, isSubset_iff,
    isStrictSubset_iff, fun i => ?_, fun i => mem_toFinset.symm, toFinset_injective.eq_iff.symm⟩
  rw [IndexSet.add, mem_toFinset, Bool.not_eq_true', Bool.not_eq_true]

-- the places 63 and 64 belong to different blocks
example : ((ofList [0, 63, 64, 129]).diff (ofList [63, 100]) : IndexSet 130).toList =
    [0, 64, 129] := by
  decide +kernel

end Recipe

end SpatialGrammar.IndexSet
