import SpatialGrammar.Conflict.Graph
import SpatialGrammar.Proofs.Conflict.Growth

/-!
# Connected spots

A spot is the closure of an element under the edges of a conflict graph. Main statements:
`spread_connectedSpot`, the budget is enough to reach the closure, and `apart_connectedSpot`, no
edge leads from a spot to the rest of the set from which it is taken.
-/

namespace SpatialGrammar.ConflictGraph

variable {n : Nat} {clashes : Clashes n} {G : SimpleGraph ℕ} {s spot within pending : IndexSet n}
variable {i j seed budget : Nat}

/-- Uniting a set with one set for each index of a list. -/
lemma contains_foldl_union {f : Nat → IndexSet n} {is : List Nat} :
    (is.foldl (fun s i => s.union (f i)) s).contains j = true ↔
      s.contains j = true ∨ ∃ i ∈ is, (f i).contains j = true := by
  induction is generalizing s with
  | nil => simp
  | cons i rest ih => simp [ih, or_assoc]

lemma contains_spread (hG : Describes clashes G) :
    (spread clashes within spot).contains j = true ↔
      spot.contains j = true ∨
        within.contains j = true ∧ ∃ i, spot.contains i = true ∧ G.Adj i j := by
  simp only [spread, contains_foldl_union, IndexSet.mem_toList, IndexSet.contains_inter,
    Bool.and_eq_true, hG _ j]
  constructor
  · rintro (h | ⟨i, hi, adj, hj⟩)
    · exact .inl h
    · exact .inr ⟨hj, i, hi, adj⟩
  · rintro (h | ⟨hj, i, hi, adj⟩)
    · exact .inl h
    · exact .inr ⟨i, hi, adj, hj⟩

lemma subset_spread (hG : Describes clashes G) :
    spot.toFinset ⊆ (spread clashes within spot).toFinset := by
  intro i hi
  rw [IndexSet.mem_toFinset] at hi ⊢
  exact (contains_spread hG).2 (.inl hi)

lemma spread_subset (hG : Describes clashes G) (sub : spot.toFinset ⊆ within.toFinset) :
    (spread clashes within spot).toFinset ⊆ within.toFinset := by
  intro i hi
  rw [IndexSet.mem_toFinset, contains_spread hG] at hi
  rcases hi with hi | ⟨hi, -⟩
  · exact sub (IndexSet.mem_toFinset.2 hi)
  · exact IndexSet.mem_toFinset.2 hi

lemma subset_closure (hG : Describes clashes G) :
    spot.toFinset ⊆ (closure clashes within budget spot).toFinset := by
  induction budget generalizing spot with
  | zero => exact subset_rfl
  | succ budget ih =>
    simp only [closure]
    split
    · exact subset_rfl
    · exact (subset_spread hG).trans ih

lemma closure_subset (hG : Describes clashes G) (sub : spot.toFinset ⊆ within.toFinset) :
    (closure clashes within budget spot).toFinset ⊆ within.toFinset := by
  induction budget generalizing spot with
  | zero => exact sub
  | succ budget ih =>
    simp only [closure]
    split
    · exact sub
    · exact ih (spread_subset hG sub)

/-- A closure that is not complete has used up its budget, one member for each step. -/
lemma spread_closure_or_card_le (hG : Describes clashes G) (within : IndexSet n) (budget : Nat)
    (spot : IndexSet n) :
    spread clashes within (closure clashes within budget spot) =
        closure clashes within budget spot ∨
      spot.toFinset.card + budget ≤ (closure clashes within budget spot).toFinset.card := by
  induction budget generalizing spot with
  | zero => exact .inr le_rfl
  | succ budget ih =>
    simp only [closure]
    split
    next fixed => exact .inl fixed
    next grows =>
      refine (ih (spread clashes within spot)).imp_right fun le => ?_
      have ne : spot.toFinset ≠ (spread clashes within spot).toFinset := fun e =>
        grows (IndexSet.toFinset_injective e.symm)
      have lt := Finset.card_lt_card ((subset_spread hG).ssubset_of_ne ne)
      omega

lemma toFinset_singleton (hs : seed < n) :
    ((IndexSet.empty : IndexSet n).insert seed).toFinset = {seed} := by
  rw [IndexSet.toFinset_insert _ hs, IndexSet.toFinset_empty, insert_empty_eq]

/-- The connected spot of an element is closed under the edges within the set. -/
lemma spread_connectedSpot (hG : Describes clashes G) (hs : seed < n) :
    spread clashes within (connectedSpot clashes within seed) =
      connectedSpot clashes within seed := by
  cases spread_closure_or_card_le hG within n (IndexSet.empty.insert seed) with
  | inl fixed => exact fixed
  | inr le =>
    -- the universe does not have as many elements
    rw [toFinset_singleton hs, Finset.card_singleton] at le
    have most := Finset.card_le_card (IndexSet.toFinset_subset_range
      (closure clashes within n (IndexSet.empty.insert seed)))
    rw [Finset.card_range] at most
    omega

lemma mem_connectedSpot (within : IndexSet n) (hG : Describes clashes G) (hs : seed < n) :
    seed ∈ (connectedSpot clashes within seed).toFinset :=
  subset_closure hG (by simp [toFinset_singleton hs])

lemma connectedSpot_subset (hG : Describes clashes G) (hs : seed ∈ within.toFinset) :
    (connectedSpot clashes within seed).toFinset ⊆ within.toFinset := by
  apply closure_subset hG
  rw [toFinset_singleton (IndexSet.lt_of_contains (IndexSet.mem_toFinset.1 hs))]
  exact Finset.singleton_subset_iff.2 hs

/-- No edge leads from a connected spot to what is left without it. -/
lemma apart_connectedSpot (pending : IndexSet n) (hG : Describes clashes G) (hs : seed < n) :
    Apart G (connectedSpot clashes pending seed).toFinset
      (pending.toFinset \ (connectedSpot clashes pending seed).toFinset) := by
  refine ⟨Finset.disjoint_sdiff, fun i hi j hj adj => ?_⟩
  obtain ⟨hj, out⟩ := Finset.mem_sdiff.1 hj
  rw [IndexSet.mem_toFinset] at hi hj
  apply out
  rw [IndexSet.mem_toFinset, ← spread_connectedSpot hG hs, contains_spread hG]
  exact .inr ⟨hj, i, hi, adj⟩

/-- The free members of a set clash with no other one. -/
lemma mem_free (hG : Describes clashes G) :
    i ∈ (free clashes s).toFinset ↔ i ∈ s.toFinset ∧ ∀ j ∈ s.toFinset, ¬ G.Adj i j := by
  simp only [free, IndexSet.mem_toFinset, IndexSet.contains_ofList, List.mem_filter,
    IndexSet.mem_toList, IndexSet.isDisjoint_iff, Finset.disjoint_left, hG i]
  constructor
  · rintro ⟨⟨hi, clear⟩, -⟩
    exact ⟨hi, fun j hj adj => clear adj hj⟩
  · rintro ⟨hi, clear⟩
    exact ⟨⟨hi, fun j adj hj => clear j hj adj⟩, IndexSet.lt_of_contains hi⟩

/-- The free members are apart from the other ones. -/
lemma apart_free (hG : Describes clashes G) :
    Apart G (free clashes s).toFinset (s.toFinset \ (free clashes s).toFinset) :=
  ⟨Finset.disjoint_sdiff, fun _ hi j hj =>
    ((mem_free hG).1 hi).2 j (Finset.mem_sdiff.1 hj).1⟩

lemma selects_free (hG : Describes clashes G) :
    Selects G (free clashes s).toFinset (free clashes s).toFinset :=
  ⟨subset_rfl, fun _ hi j hj _ => ((mem_free hG).1 hi).2 j ((mem_free hG).1 hj).1⟩

end SpatialGrammar.ConflictGraph
