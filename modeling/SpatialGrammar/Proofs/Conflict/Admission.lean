import Mathlib.Data.Finset.Union
import SpatialGrammar.Proofs.Conflict.Growth
import SpatialGrammar.Proofs.Conflict.Relation

/-!
# Admission to arrangements

Whether an element can join an arrangement is asked of the set of what is incompatible with it, not
of its members. `Made` are the arrangements that trying elements and growing lead to, and
`Made.keeps` carries what one admission keeps through every such history. Main statement:
`Made.admission_exact`, the set answers for the members, so that no two of them clash, and what
growth without a limit leaves out clashes with one of them.
-/

namespace SpatialGrammar.Arrangement

variable {n : Nat} {clashes : Clashes n} {a : Arrangement n} {i j : Nat} {is : List Nat}

/-- The arrangements that trying elements and growing make of the empty one. -/
inductive Made (clashes : Clashes n) : Arrangement n → Prop
  | empty : Made clashes Arrangement.empty
  | tryAdd {a : Arrangement n} (made : Made clashes a) (i : Fin n) :
      Made clashes (a.tryAdd clashes i).2
  | grow {a : Arrangement n} (made : Made clashes a) (limit : Option Nat) (extra : IndexSet n) :
      Made clashes (a.grow clashes limit extra)

/-- What the admission of any element keeps is kept by growing. -/
lemma grow_keeps {P : Arrangement n → Prop} (step : ∀ a, P a → ∀ i < n, P (a.add clashes i))
    (ha : P a) (limit : Option Nat) (extra : IndexSet n) : P (a.grow clashes limit extra) := by
  apply List.foldlRecOn extra.toList _ ha
  intro b hb i hi
  split
  next => exact hb
  next => exact step b hb i (IndexSet.lt_of_contains (IndexSet.mem_toList.1 hi))

/-- What the admission of any element keeps holds after every history. -/
lemma Made.keeps {P : Arrangement n → Prop} (none : P Arrangement.empty)
    (step : ∀ a, P a → ∀ i < n, P (a.add clashes i)) (made : Made clashes a) : P a := by
  induction made with
  | empty => exact none
  | tryAdd _ i ih => exact step _ ih i i.isLt
  | grow _ limit extra ih => exact grow_keeps step ih limit extra

lemma Made.tracks (made : Made clashes a) : a.Tracks clashes :=
  made.keeps (tracks_empty clashes) fun _ ha _ hi => ha.add hi

/-- No two members clash. -/
def Clear (clashes : Clashes n) (a : Arrangement n) : Prop :=
  (a.selection : Set ℕ).Pairwise fun i j => (clashes i).contains j = false

lemma Clear.add (clear : a.Clear clashes) (ha : a.Tracks clashes)
    (symmetric : ∀ i j, (clashes i).contains j = (clashes j).contains i) (hi : i < n) :
    (a.add clashes i).Clear clashes := by
  cases can : a.canAdd i with
  | false => rwa [add_of_not_canAdd can]
  | true =>
    -- no member clashes with the new one; that it clashes with no member is the same by symmetry
    have free := ((canAdd_iff ha).1 can).2
    rw [Clear, selection_of_canAdd can hi, Finset.coe_insert]
    refine Set.Pairwise.insert clear fun j hj _ => ⟨?_, free j hj⟩
    rw [symmetric]
    exact free j hj

lemma Made.clear (symmetric : ∀ i j, (clashes i).contains j = (clashes j).contains i)
    (made : Made clashes a) : a.Clear clashes := by
  have both : a.Tracks clashes ∧ a.Clear clashes := by
    apply made.keeps (P := fun a => a.Tracks clashes ∧ a.Clear clashes)
    · exact ⟨tracks_empty clashes, by simp [Clear]⟩
    · exact fun a ha i hi => ⟨ha.1.add hi, ha.2.add ha.1 symmetric hi⟩
  exact both.2

section refusal

/-- What cannot join is a member or clashes with one. -/
lemma canAdd_eq_false_iff (ha : a.Tracks clashes) : a.canAdd i = false ↔
    i ∈ a.selection ∨ ∃ j ∈ a.selection, (clashes j).contains i = true := by
  rw [← ha i, selection, IndexSet.mem_toFinset]
  simp [canAdd, or_iff_not_imp_left]

/-- What cannot join never can: members and incompatible elements only become more. -/
lemma canAdd_add (refused : a.canAdd i = false) (j : Nat) :
    (a.add clashes j).canAdd i = false := by
  rw [add]
  split
  next =>
    simp only [canAdd, Bool.and_eq_false_iff, Bool.not_eq_false', IndexSet.contains_insert,
      IndexSet.contains_union, Bool.or_eq_true] at refused ⊢
    exact refused.imp .inl .inl
  next => exact refused

/-- What has been tried cannot join again, whether it has joined or not. -/
lemma canAdd_add_self (hi : i < n) : (a.add clashes i).canAdd i = false := by
  cases can : a.canAdd i with
  | true =>
    rw [add, if_pos can]
    simp [canAdd, hi]
  | false => exact canAdd_add can i

lemma canAdd_foldl_add (lt : ∀ i ∈ is, i < n)
    (h : i ∈ is ∨ a.canAdd i = false) : (is.foldl (add clashes) a).canAdd i = false := by
  -- an element is still to come, or it has been tried and cannot join any more
  induction is generalizing a with
  | nil => exact h.resolve_left List.not_mem_nil
  | cons k is ih =>
    apply ih fun j hj => lt j (List.mem_cons_of_mem k hj)
    rcases h with mem | refused
    · rcases List.mem_cons.1 mem with rfl | mem
      · exact .inr (canAdd_add_self (lt _ List.mem_cons_self))
      · exact .inl mem
    · exact .inr (canAdd_add refused k)

/-- Growing without a limit tries every new element. -/
lemma canAdd_grow {extra : IndexSet n} (hi : i ∈ extra.toFinset) :
    (a.grow clashes none extra).canAdd i = false := by
  rw [IndexSet.mem_toFinset, ← IndexSet.mem_toList] at hi
  exact canAdd_foldl_add (fun j hj => IndexSet.lt_of_contains (IndexSet.mem_toList.1 hj)) (.inl hi)

end refusal

/-- In a symmetric graph the incompatible elements of an arrangement are, after every history, the
union of what its members clash with, and no two members clash. An element that is tried joins iff
it is no member and clashes with none, and nothing changes if it does not. After growth without a
limit every new element is a member or clashes with one. -/
theorem Made.admission_exact {g : ConflictGraph n} (made : Made g.clashes a)
    (symmetric : ∀ i j, (g.clashes i).contains j = (g.clashes j).contains i) :
    a.incompatible.toFinset = a.selection.biUnion (fun i => (g.clashes i).toFinset) ∧
      (a.selection : Set ℕ).Pairwise (fun i j => (g.clashes i).contains j = false) ∧
      (∀ i : Fin n, (a.tryAdd g.clashes i).1 = true ↔
        (i : ℕ) ∉ a.selection ∧ ∀ j ∈ a.selection, (g.clashes j).contains i = false) ∧
      (∀ i, (a.tryAdd g.clashes i).1 = false → (a.tryAdd g.clashes i).2 = a) ∧
      ∀ extra : IndexSet n, ∀ i ∈ extra.toFinset,
        i ∈ (a.grow g.clashes none extra).selection ∨
          ∃ j ∈ (a.grow g.clashes none extra).selection, (g.clashes j).contains i = true := by
  refine ⟨?_, made.clear symmetric, fun i => canAdd_iff made.tracks,
    fun i refused => add_of_not_canAdd refused, fun extra i hi => ?_⟩
  · ext j
    rw [IndexSet.mem_toFinset, made.tracks j, Finset.mem_biUnion]
    simp only [IndexSet.mem_toFinset]
  · exact (canAdd_eq_false_iff (made.grow none extra).tracks).1 (canAdd_grow hi)

/-- Three elements in a row, each of them in conflict with the next one. -/
def row : ConflictGraph 3 :=
  (Conflict.relation (κ := Unit) fun a b => a + 1 == b).graph [0, 1, 2]

/-- The first element of the row, beside which the second one is refused and the third one joins. -/
def grownRow : Arrangement 3 :=
  ((Arrangement.empty.tryAdd row.clashes 0).2.tryAdd row.clashes 1).2.grow row.clashes (some 2)
    IndexSet.full

theorem Made.admission_exact_row :
    Made row.clashes grownRow ∧
      (∀ i j, (row.clashes i).contains j = (row.clashes j).contains i) ∧
      grownRow.incompatible.toFinset =
        grownRow.selection.biUnion fun i => (row.clashes i).toFinset := by
  have made : Made row.clashes grownRow := ((Made.empty.tryAdd 0).tryAdd 1).grow (some 2) _
  have symmetric := Conflict.contains_comm
    (Conflict.relation (κ := Unit) fun a b => a + 1 == b) [0, 1, 2]
  exact ⟨made, symmetric, (made.admission_exact symmetric).1⟩

example : grownRow.members.toList = [0, 2] ∧ grownRow.incompatible.toList = [1] := by
  decide +kernel

end SpatialGrammar.Arrangement
