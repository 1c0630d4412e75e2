import SpatialGrammar.Conflict.Graph
import SpatialGrammar.Proofs.Conflict.Growth
import SpatialGrammar.Proofs.Conflict.Links

/-!
# Graphs of conflicts

The two ways to tell which elements are in conflict, and the graph that each of them describes. Main
statement: `Conflict.describes`, what an element of the built graph clashes with is what it is in
conflict with, whichever way the conflict is told.
-/

namespace SpatialGrammar

/-- How two elements are known to be in conflict: a relation holds in either order, or they share
a component. -/
inductive Conflict (τ κ : Type) where
  | relation (related : τ → τ → Bool)
  | components (componentsOf : τ → List κ)

namespace Conflict

variable {τ κ : Type} {a b : τ} {elements : List τ} {i j : Nat}

/-- Whether a conflict is told of two elements, in this order. -/
def Relates : Conflict τ κ → τ → τ → Prop
  | relation related, a, b => related a b = true
  | components componentsOf, a, b => ∃ c ∈ componentsOf a, c ∈ componentsOf b

/-- The graph of the conflicts between the elements of a list, on their indices. -/
def between (conflict : Conflict τ κ) (elements : List τ) : SimpleGraph ℕ :=
  SimpleGraph.fromRel fun i j => ∃ a ∈ elements[i]?, ∃ b ∈ elements[j]?, conflict.Relates a b

/-- The conflict graph that is built for the elements of a list. -/
def graph [DecidableEq κ] (conflict : Conflict τ κ) (elements : List τ) :
    ConflictGraph elements.length :=
  match conflict with
  | relation related => ConflictGraph.ofRelation fun i j =>
      elements[i]?.any fun a => elements[j]?.any fun b => related a b
  | components componentsOf => ConflictGraph.ofComponents (elements.map componentsOf)

lemma lt_of_adj {conflict : Conflict τ κ} (h : (conflict.between elements).Adj i j) :
    i < elements.length := by
  rw [between, SimpleGraph.fromRel_adj] at h
  rcases h.2 with ⟨a, ha, -⟩ | ⟨-, -, a, ha, -⟩
  · exact (List.getElem?_eq_some_iff.1 ha).1
  · exact (List.getElem?_eq_some_iff.1 ha).1

/-- A relation of elements is a relation of their indices. -/
lemma relates_relation {related : τ → τ → Bool} :
    (elements[i]?.any fun a => elements[j]?.any fun b => related a b) = true ↔
      ∃ a ∈ elements[i]?, ∃ b ∈ elements[j]?, (relation related : Conflict τ κ).Relates a b := by
  simp only [Option.any_eq_true, Option.mem_def, Relates]

/-- A component that two elements share is listed for both of their indices. -/
lemma relates_components {componentsOf : τ → List κ} :
    (∃ c, (∃ cs ∈ (elements.map componentsOf)[i]?, c ∈ cs) ∧
      ∃ cs ∈ (elements.map componentsOf)[j]?, c ∈ cs) ↔
      ∃ a ∈ elements[i]?, ∃ b ∈ elements[j]?, (components componentsOf).Relates a b := by
  simp only [List.getElem?_map, Relates]
  cases elements[i]? <;> cases elements[j]? <;> simp

/-- The built graph is the graph of the conflicts. -/
theorem describes [DecidableEq κ] (conflict : Conflict τ κ) (elements : List τ) :
    Describes (conflict.graph elements).clashes (conflict.between elements) := by
  intro i j
  have inside : (conflict.between elements).Adj i j →
      i < elements.length ∧ j < elements.length := fun adj => ⟨lt_of_adj adj, lt_of_adj adj.symm⟩
  rw [← and_iff_left_of_imp inside, between, SimpleGraph.fromRel_adj, and_assoc]
  cases conflict with
  | relation related =>
    rw [graph, ConflictGraph.contains_ofRelation, relates_relation, relates_relation]
  | components componentsOf =>
    -- sharing a component is symmetric, so that one order is enough
    have symmetric : (∃ b ∈ elements[j]?, ∃ a ∈ elements[i]?,
        (components componentsOf).Relates b a) →
        ∃ a ∈ elements[i]?, ∃ b ∈ elements[j]?, (components componentsOf).Relates a b := by
      rintro ⟨b, hb, a, ha, c, hc, hd⟩
      exact ⟨a, ha, b, hb, c, hd, hc⟩
    rw [graph, ConflictGraph.contains_ofComponents, relates_components,
      or_iff_left_of_imp symmetric]

/-- No element clashes with itself. -/
lemma contains_self [DecidableEq κ] (conflict : Conflict τ κ) (elements : List τ) (i : Nat) :
    ((conflict.graph elements).clashes i).contains i = false := by
  rw [Bool.eq_false_iff, ne_eq, conflict.describes elements]
  exact SimpleGraph.irrefl _

/-- If an element clashes with another one, it is the other way round as well. -/
lemma contains_comm [DecidableEq κ] (conflict : Conflict τ κ) (elements : List τ) (i j : Nat) :
    ((conflict.graph elements).clashes i).contains j =
      ((conflict.graph elements).clashes j).contains i := by
  rw [Bool.eq_iff_iff, conflict.describes elements, conflict.describes elements]
  exact SimpleGraph.adj_comm _ i j

end Conflict

end SpatialGrammar
