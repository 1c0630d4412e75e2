import Mathlib.Combinatorics.SimpleGraph.Clique

/-!
# Conflict-free selections

Selections of elements no two of which are joined by an edge of a graph, and how the maximal ones
fall apart. Main statements: `Apart.maximal_union` and `Apart.maximal_inter`, the maximal selections
of two parts without edges between them combine freely, and `maximal_insert`, `maximal_erase`,
`maximal_of_rival` and `maximal_lacking`, the maximal selections fork on whether they hold a given
element.
-/

namespace SpatialGrammar

variable {G : SimpleGraph ℕ} {within s t A B : Finset ℕ} {i j seed : ℕ}

/-- A conflict-free selection of some elements. -/
def Selects (G : SimpleGraph ℕ) (within s : Finset ℕ) : Prop := s ⊆ within ∧ G.IsIndepSet s

/-- No two members of a selection conflict. -/
lemma Selects.not_adj (h : Selects G within s) (hi : i ∈ s) (hj : j ∈ s) : ¬ G.Adj i j := by
  by_cases e : i = j
  · rw [e]
    exact G.irrefl
  · exact h.2 hi hj e

lemma Selects.mono (h : Selects G within t) (hs : s ⊆ t) : Selects G within s :=
  ⟨hs.trans h.1, fun _ hi _ hj e => h.2 (hs hi) (hs hj) e⟩

lemma selects_empty (G : SimpleGraph ℕ) (within : Finset ℕ) : Selects G within ∅ :=
  ⟨Finset.empty_subset _, by simp [SimpleGraph.IsIndepSet]⟩

/-- An element that conflicts with no member of a selection can be added to it. -/
lemma Selects.insert (h : Selects G within s) (hi : i ∈ within) (hs : ∀ j ∈ s, ¬ G.Adj i j) :
    Selects G within (insert i s) := by
  refine ⟨Finset.insert_subset hi h.1, ?_⟩
  rw [Finset.coe_insert]
  apply Set.Pairwise.insert h.2
  intro j hj _
  exact ⟨hs j hj, fun a => hs j hj a.symm⟩

/-- A selection is maximal iff whatever it leaves out conflicts with a member. -/
lemma maximal_selects_iff :
    Maximal (Selects G within) s ↔
      Selects G within s ∧ ∀ i ∈ within, i ∉ s → ∃ j ∈ s, G.Adj i j := by
  constructor
  · intro h
    refine ⟨h.prop, fun i hi his => ?_⟩
    by_contra hs
    push Not at hs
    have grown := h.prop.insert hi hs
    exact his (h.le_of_ge grown (Finset.subset_insert i s) (Finset.mem_insert_self i s))
  · rintro ⟨hs, h⟩
    refine ⟨hs, fun t ht hst i hi => ?_⟩
    by_contra his
    obtain ⟨j, hj, adj⟩ := h i (ht.1 hi) his
    exact ht.not_adj hi (hst hj) adj

/-- Two parts without common elements and without edges between them. -/
structure Apart (G : SimpleGraph ℕ) (A B : Finset ℕ) : Prop where
  disjoint : Disjoint A B
  not_adj : ∀ i ∈ A, ∀ j ∈ B, ¬ G.Adj i j

namespace Apart

lemma symm (h : Apart G A B) : Apart G B A :=
  ⟨h.disjoint.symm, fun i hi j hj adj => h.not_adj j hj i hi adj.symm⟩

lemma mono_right {B' : Finset ℕ} (h : Apart G A B) (hB : B' ⊆ B) : Apart G A B' :=
  ⟨h.disjoint.mono_right hB, fun i hi j hj => h.not_adj i hi j (hB hj)⟩

lemma union_left {A' : Finset ℕ} (h : Apart G A B) (h' : Apart G A' B) : Apart G (A ∪ A') B := by
  refine ⟨Finset.disjoint_union_left.2 ⟨h.disjoint, h'.disjoint⟩, fun i hi => ?_⟩
  cases Finset.mem_union.1 hi with
  | inl hi => exact h.not_adj i hi
  | inr hi => exact h'.not_adj i hi

/-- Selections of the parts make a selection together. -/
lemma selects_union (h : Apart G A B) (hs : Selects G A s) (ht : Selects G B t) :
    Selects G (A ∪ B) (s ∪ t) := by
  refine ⟨Finset.union_subset_union hs.1 ht.1, ?_⟩
  rw [Finset.coe_union, SimpleGraph.isIndepSet_iff, Set.pairwise_union]
  refine ⟨hs.2, ht.2, fun i hi j hj _ => ?_⟩
  have no := h.not_adj i (hs.1 hi) j (ht.1 hj)
  exact ⟨no, fun a => no a.symm⟩

/-- Maximal selections of the parts make a maximal selection together. -/
lemma maximal_union (h : Apart G A B) (hs : Maximal (Selects G A) s)
    (ht : Maximal (Selects G B) t) : Maximal (Selects G (A ∪ B)) (s ∪ t) := by
  rw [maximal_selects_iff] at hs ht ⊢
  refine ⟨h.selects_union hs.1 ht.1, fun i hi his => ?_⟩
  rw [Finset.mem_union, not_or] at his
  cases Finset.mem_union.1 hi with
  | inl hi =>
    obtain ⟨j, hj, adj⟩ := hs.2 i hi his.1
    exact ⟨j, Finset.mem_union_left t hj, adj⟩
  | inr hi =>
    obtain ⟨j, hj, adj⟩ := ht.2 i hi his.2
    exact ⟨j, Finset.mem_union_right s hj, adj⟩

/-- A maximal selection of both parts is maximal on the first one. -/
lemma maximal_inter (h : Apart G A B) (hs : Maximal (Selects G (A ∪ B)) s) :
    Maximal (Selects G A) (s ∩ A) := by
  rw [maximal_selects_iff] at hs ⊢
  have sel := hs.1.mono (Finset.inter_subset_left : s ∩ A ⊆ s)
  refine ⟨⟨Finset.inter_subset_right, sel.2⟩, fun i hi his => ?_⟩
  have out : i ∉ s := fun hs => his (Finset.mem_inter.2 ⟨hs, hi⟩)
  obtain ⟨j, hj, adj⟩ := hs.2 i (Finset.mem_union_left B hi) out
  -- the rival of `i` cannot belong to the other part
  cases Finset.mem_union.1 (hs.1.1 hj) with
  | inl hA => exact ⟨j, Finset.mem_inter.2 ⟨hj, hA⟩, adj⟩
  | inr hB => exact absurd adj (h.not_adj i hi j hB)

end Apart

section fork

variable {rivals : Finset ℕ}

/-- Without an element and its rivals nothing is left that conflicts with it. -/
lemma selects_insert (hr : ∀ j ∈ within, j ∈ rivals ↔ G.Adj seed j) (seed_mem : seed ∈ within)
    (hs : Selects G ((within \ rivals).erase seed) s) : Selects G within (insert seed s) := by
  have sub : s ⊆ within := fun i hi =>
    (Finset.mem_sdiff.1 (Finset.mem_of_mem_erase (hs.1 hi))).1
  apply Selects.insert ⟨sub, hs.2⟩ seed_mem
  intro j hj adj
  have out := (Finset.mem_sdiff.1 (Finset.mem_of_mem_erase (hs.1 hj))).2
  exact out ((hr j (sub hj)).2 adj)

/-- An element completes the maximal selections of what does not conflict with it. -/
lemma maximal_insert (hr : ∀ j ∈ within, j ∈ rivals ↔ G.Adj seed j) (seed_mem : seed ∈ within)
    (hs : Maximal (Selects G ((within \ rivals).erase seed)) s) :
    Maximal (Selects G within) (insert seed s) := by
  rw [maximal_selects_iff] at hs ⊢
  refine ⟨selects_insert hr seed_mem hs.1, fun i hi his => ?_⟩
  rw [Finset.mem_insert, not_or] at his
  by_cases rival : i ∈ rivals
  · exact ⟨seed, Finset.mem_insert_self seed s, ((hr i hi).1 rival).symm⟩
  · have left : i ∈ (within \ rivals).erase seed :=
      Finset.mem_erase.2 ⟨his.1, Finset.mem_sdiff.2 ⟨hi, rival⟩⟩
    obtain ⟨j, hj, adj⟩ := hs.2 i left his.2
    exact ⟨j, Finset.mem_insert_of_mem hj, adj⟩

/-- Every maximal selection that holds an element arises this way. -/
lemma maximal_erase (hr : ∀ j ∈ within, j ∈ rivals ↔ G.Adj seed j) (seed_mem : seed ∈ s)
    (hs : Maximal (Selects G within) s) :
    Maximal (Selects G ((within \ rivals).erase seed)) (s.erase seed) := by
  rw [maximal_selects_iff] at hs ⊢
  refine ⟨⟨fun i hi => ?_, (hs.1.mono (Finset.erase_subset seed s)).2⟩, fun i hi his => ?_⟩
  · obtain ⟨ne, mem⟩ := Finset.mem_erase.1 hi
    refine Finset.mem_erase.2 ⟨ne, Finset.mem_sdiff.2 ⟨hs.1.1 mem, fun rival => ?_⟩⟩
    exact hs.1.not_adj seed_mem mem ((hr i (hs.1.1 mem)).1 rival)
  · obtain ⟨ne, left⟩ := Finset.mem_erase.1 hi
    obtain ⟨mem, clear⟩ := Finset.mem_sdiff.1 left
    obtain ⟨j, hj, adj⟩ := hs.2 i mem fun held => his (Finset.mem_erase.2 ⟨ne, held⟩)
    refine ⟨j, Finset.mem_erase.2 ⟨?_, hj⟩, adj⟩
    rintro rfl
    exact clear ((hr i mem).2 adj.symm)

/-- A selection that is maximal without an element is maximal with it if it holds a rival. -/
lemma maximal_of_rival (hs : Maximal (Selects G (within.erase seed)) s)
    (hj : j ∈ s) (adj : G.Adj seed j) : Maximal (Selects G within) s := by
  rw [maximal_selects_iff] at hs ⊢
  refine ⟨⟨hs.1.1.trans (Finset.erase_subset seed within), hs.1.2⟩, fun i hi his => ?_⟩
  by_cases e : i = seed
  · rw [e]
    exact ⟨j, hj, adj⟩
  · exact hs.2 i (Finset.mem_erase.2 ⟨e, hi⟩) his

/-- Every maximal selection that lacks an element arises this way. -/
lemma maximal_lacking (hs : Maximal (Selects G within) s) (lacks : seed ∉ s) :
    Maximal (Selects G (within.erase seed)) s := by
  rw [maximal_selects_iff] at hs ⊢
  refine ⟨⟨fun i hi => ?_, hs.1.2⟩, fun i hi his => hs.2 i (Finset.mem_of_mem_erase hi) his⟩
  exact Finset.mem_erase.2 ⟨fun e => lacks (e ▸ hi), hs.1.1 hi⟩

end fork

end SpatialGrammar
