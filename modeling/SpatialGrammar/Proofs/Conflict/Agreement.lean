import SpatialGrammar.Proofs.Conflict.Relation

/-!
# The two ways to tell conflicts agree

Elements that are in conflict if they share a component can be told by their components, which are
turned round into a table of owners, or by the relation of sharing a component, for which all pairs
are gone through. Main statement: `Conflict.graph_exact`, both ways build the same graph, in which
two elements clash iff they are different and share a component.
-/

namespace SpatialGrammar.Conflict

variable {τ κ : Type} [DecidableEq κ] {componentsOf : τ → List κ} {elements : List τ} {a b : τ}

/-- The conflicts of elements that share a component, told by a relation. -/
def sharing (componentsOf : τ → List κ) : Conflict τ κ :=
  relation fun a b => (componentsOf a).any fun c => decide (c ∈ componentsOf b)

lemma relates_sharing :
    (sharing componentsOf).Relates a b ↔ (components componentsOf).Relates a b := by
  simp only [sharing, Relates, List.any_eq_true, decide_eq_true_eq]

lemma between_sharing :
    (sharing componentsOf).between elements = (components componentsOf).between elements := by
  simp only [between, relates_sharing]

/-- Both ways to tell shared components build the same graph. -/
lemma graph_sharing (componentsOf : τ → List κ) (elements : List τ) :
    (sharing componentsOf).graph elements = (components componentsOf).graph elements := by
  apply ConflictGraph.ext_clashes
  intro i j
  rw [describes (sharing componentsOf) elements i j, between_sharing,
    describes (components componentsOf) elements i j]

/-- Elements clash iff they are different and share a component. -/
lemma contains_shared (i j : Fin elements.length) :
    (((components componentsOf).graph elements).clashes i).contains j = true ↔
      i ≠ j ∧ ∃ c ∈ componentsOf (elements.get i), c ∈ componentsOf (elements.get j) := by
  rw [graph, ConflictGraph.contains_ofComponents, ← Fin.val_ne_iff]
  simp [i.isLt, j.isLt]

/-- The places of a list clash that are different and hold elements with a component in common,
however often an element has it. No place clashes with itself, and clashing is symmetric. Telling
the conflicts by the relation of sharing a component leads to the same clashes and the same
arrangements, and so does going through the owners of the components in any order. -/
theorem graph_exact (componentsOf : τ → List κ) (elements : List τ) :
    let shared := (components componentsOf).graph elements
    let related := (sharing componentsOf).graph elements
    (∀ i j : Fin elements.length, (shared.clashes i).contains j = true ↔
        i ≠ j ∧ ∃ c ∈ componentsOf (elements.get i), c ∈ componentsOf (elements.get j)) ∧
      (∀ i, (shared.clashes i).contains i = false) ∧
      (∀ i j, (shared.clashes i).contains j = (shared.clashes j).contains i) ∧
      (∀ i, shared.clashes i = related.clashes i) ∧
      (∀ limit, shared.arrangements limit = related.arrangements limit) ∧
      ∀ groups, (OwnerTable.ofComponents (elements.map componentsOf)).groups.Perm groups →
        ConflictGraph.ofGroups groups = shared := by
  intro shared related
  have same : related = shared := graph_sharing componentsOf elements
  rw [same]
  refine ⟨contains_shared, contains_self _ elements, contains_comm _ elements, fun _ => rfl,
    fun _ => rfl, fun groups perm => ?_⟩
  exact (ConflictGraph.ofGroups_perm perm).symm

/-- Elements that are lists of components: one has a component twice, and one has none. -/
def pieces : List (List Nat) := [[0, 1], [1, 1], [], [0]]

theorem graph_exact_reverse :
    let groups := (OwnerTable.ofComponents (pieces.map id)).groups
    groups.Perm groups.reverse ∧
      ConflictGraph.ofGroups groups.reverse = (components id).graph pieces := by
  intro groups
  have perm : groups.Perm groups.reverse := groups.reverse_perm.symm
  exact ⟨perm, (graph_exact id pieces).2.2.2.2.2 groups.reverse perm⟩

example : (List.range 4).map (fun i => (((components id).graph pieces).clashes i).toList) =
    [[1, 3], [0], [], [0]] := by
  decide +kernel

end SpatialGrammar.Conflict
