import Mathlib.Data.List.Lex
import SpatialGrammar.Proofs.Conflict.Growth

/-!
# Retaining maximal arrangements

Dropping the arrangements that are contained in others. Main statements: `retainMaximal_subset`,
nothing is added, `exists_retained`, whatever is dropped is contained in what stays, and
`antichain_retainMaximal`, nothing that stays is contained in anything else that stays.
-/

namespace SpatialGrammar.Arrangement

variable {n : Nat} {a b : Arrangement n} {as earlier : List (Arrangement n)}
variable {last : Option (IndexSet n)}

/-- Neither of two arrangements is contained in the other. -/
def Incomparable (a b : Arrangement n) : Prop :=
  ¬ a.selection ⊆ b.selection ∧ ¬ b.selection ⊆ a.selection

lemma lexicographic_iff {is js : List Nat} : lexicographic is js = true ↔ is ≤ js := by
  rw [← not_lt]
  induction is generalizing js with
  | nil => simp [lexicographic]
  | cons i is ih =>
    cases js with
    | nil => simp [lexicographic]
    | cons j js =>
      simp only [lexicographic, Bool.or_eq_true, Bool.and_eq_true, decide_eq_true_eq, ih,
        List.cons_lt_cons_iff, not_or, not_and]
      grind

/-- Whether an arrangement does not come after another one: it has more members, or as many and
comes first in the order of the members. -/
def notAfter (a b : Arrangement n) : Bool :=
  decide (b.size < a.size)
    || (decide (a.size = b.size) && lexicographic a.members.toList b.members.toList)

/-- Sorting with keys that have been computed beforehand. -/
lemma map_mergeSort_keyed {β γ : Type} {key : β → γ} (r : γ × β → γ × β → Bool) (xs : List β) :
    ((xs.map fun x => (key x, x)).mergeSort r).map (·.2) =
      xs.mergeSort fun x y => r (key x, x) (key y, y) := by
  rw [List.map_mergeSort (s := fun x y => r (key x, x) (key y, y))]
  · rw [List.map_map]
    exact congrArg (List.mergeSort · _) (List.map_id xs)
  · intro p hp q hq
    obtain ⟨x, -, rfl⟩ := List.mem_map.1 hp
    obtain ⟨y, -, rfl⟩ := List.mem_map.1 hq
    rfl

lemma inOrder_eq_mergeSort (as : List (Arrangement n)) : inOrder as = as.mergeSort notAfter :=
  map_mergeSort_keyed _ as

lemma notAfter_trans (a b c : Arrangement n) (hab : notAfter a b = true)
    (hbc : notAfter b c = true) : notAfter a c = true := by
  simp only [notAfter, Bool.or_eq_true, Bool.and_eq_true, decide_eq_true_eq,
    lexicographic_iff] at hab hbc ⊢
  rcases hab with lt | ⟨eq, le⟩
  · left
    omega
  · rcases hbc with lt' | ⟨eq', le'⟩
    · left
      omega
    · exact .inr ⟨eq.trans eq', le.trans le'⟩

lemma notAfter_total (a b : Arrangement n) : (notAfter a b || notAfter b a) = true := by
  simp only [notAfter, Bool.or_eq_true, Bool.and_eq_true, decide_eq_true_eq, lexicographic_iff]
  rcases lt_trichotomy a.size b.size with lt | eq | lt
  · exact .inr (.inl lt)
  · cases le_total a.members.toList b.members.toList with
    | inl le => exact .inl (.inr ⟨eq, le⟩)
    | inr le => exact .inr (.inr ⟨eq.symm, le⟩)
  · exact .inl (.inl lt)

lemma mem_inOrder : a ∈ inOrder as ↔ a ∈ as := by
  rw [inOrder_eq_mergeSort, List.mem_mergeSort]

lemma pairwise_inOrder (as : List (Arrangement n)) :
    (inOrder as).Pairwise fun a b => notAfter a b = true := by
  rw [inOrder_eq_mergeSort]
  exact List.pairwise_mergeSort notAfter_trans notAfter_total as

lemma size_le_of_notAfter (h : notAfter a b = true) : b.size ≤ a.size := by
  simp only [notAfter, Bool.or_eq_true, Bool.and_eq_true, decide_eq_true_eq] at h
  omega

lemma dropRepeated_sublist (last : Option (IndexSet n)) (as : List (Arrangement n)) :
    (dropRepeated last as).Sublist as := by
  induction as generalizing last with
  | nil => exact List.Sublist.refl _
  | cons a rest ih =>
    simp only [dropRepeated]
    split
    · exact (ih last).cons a
    · exact (ih (some a.members)).cons_cons a

/-- What is dropped has the members of one that stays, or of the last one before the list. -/
lemma exists_of_mem_dropRepeated (last : Option (IndexSet n)) (ha : a ∈ as) :
    last = some a.members ∨ ∃ b ∈ dropRepeated last as, b.members = a.members := by
  induction as generalizing last with
  | nil => cases ha
  | cons c rest ih =>
    simp only [dropRepeated]
    split
    next repeated =>
      cases ha with
      | head => exact .inl repeated
      | tail _ ha => exact ih last ha
    next =>
      cases ha with
      | head => exact .inr ⟨a, List.mem_cons_self, rfl⟩
      | tail _ ha =>
        rcases ih (some c.members) ha with same | ⟨b, hb, same⟩
        · exact .inr ⟨c, List.mem_cons_self, Option.some.inj same⟩
        · exact .inr ⟨b, List.mem_cons_of_mem c hb, same⟩

/-- Whether an arrangement is contained in one of some others. -/
lemma any_isSubset_iff : (earlier.any fun b => a.members.isSubset b.members) = true ↔
    ∃ b ∈ earlier, a.selection ⊆ b.selection := by
  simp [IndexSet.isSubset_iff, selection]

lemma dropContained_sublist (earlier as : List (Arrangement n)) :
    (dropContained earlier as).Sublist as := by
  induction as generalizing earlier with
  | nil => exact List.Sublist.refl _
  | cons a rest ih =>
    simp only [dropContained]
    split
    · exact (ih earlier).cons a
    · exact (ih (a :: earlier)).cons_cons a

/-- What is dropped is contained in an earlier arrangement or in one that stays. -/
lemma exists_of_mem_dropContained (earlier : List (Arrangement n)) (ha : a ∈ as) :
    (∃ b ∈ earlier, a.selection ⊆ b.selection) ∨
      ∃ b ∈ dropContained earlier as, a.selection ⊆ b.selection := by
  induction as generalizing earlier with
  | nil => cases ha
  | cons c rest ih =>
    simp only [dropContained]
    split
    next contained =>
      cases ha with
      | head => exact .inl (any_isSubset_iff.1 contained)
      | tail _ ha => exact ih earlier ha
    next =>
      cases ha with
      | head => exact .inr ⟨a, List.mem_cons_self, subset_rfl⟩
      | tail _ ha =>
        rcases ih (c :: earlier) ha with ⟨b, hb, sub⟩ | ⟨b, hb, sub⟩
        · cases hb with
          | head => exact .inr ⟨c, List.mem_cons_self, sub⟩
          | tail _ hb => exact .inl ⟨b, hb, sub⟩
        · exact .inr ⟨b, List.mem_cons_of_mem c hb, sub⟩

/-- What stays is contained in no earlier arrangement. -/
lemma not_subset_of_mem_dropContained (ha : a ∈ dropContained earlier as) (hb : b ∈ earlier) :
    ¬ a.selection ⊆ b.selection := by
  induction as generalizing earlier with
  | nil => cases ha
  | cons c rest ih =>
    simp only [dropContained] at ha
    split at ha
    next => exact ih ha hb
    next free =>
      cases ha with
      | head => exact fun sub => free (any_isSubset_iff.2 ⟨b, hb, sub⟩)
      | tail _ ha => exact ih ha (List.mem_cons_of_mem c hb)

/-- Of what stays, nothing is contained in what comes before it. -/
lemma pairwise_dropContained (earlier as : List (Arrangement n)) :
    (dropContained earlier as).Pairwise fun a b => ¬ b.selection ⊆ a.selection := by
  induction as generalizing earlier with
  | nil => exact List.Pairwise.nil
  | cons a rest ih =>
    simp only [dropContained]
    split
    · exact ih earlier
    · refine List.Pairwise.cons (fun b hb => ?_) (ih (a :: earlier))
      exact not_subset_of_mem_dropContained hb List.mem_cons_self

lemma retainMaximal_sublist (as : List (Arrangement n)) :
    (retainMaximal as).Sublist (inOrder as) :=
  (dropContained_sublist [] _).trans (dropRepeated_sublist none _)

lemma retainMaximal_subset (as : List (Arrangement n)) : retainMaximal as ⊆ as := fun _ ha =>
  mem_inOrder.1 ((retainMaximal_sublist as).subset ha)

/-- Every arrangement is contained in one that is retained. -/
lemma exists_retained (ha : a ∈ as) : ∃ b ∈ retainMaximal as, a.selection ⊆ b.selection := by
  rcases exists_of_mem_dropRepeated none (mem_inOrder.2 ha) with h | ⟨c, hc, same⟩
  · cases h
  rcases exists_of_mem_dropContained [] hc with ⟨b, hb, -⟩ | ⟨b, hb, sub⟩
  · cases hb
  · refine ⟨b, hb, ?_⟩
    rwa [selection, ← same]

lemma antichain_retainMaximal (as : List (Arrangement n)) :
    (retainMaximal as).Pairwise Incomparable := by
  have larger := (pairwise_inOrder as).sublist (retainMaximal_sublist as)
  refine (larger.and (pairwise_dropContained [] (dropRepeated none (inOrder as)))).imp ?_
  rintro a b ⟨order, not_sub⟩
  refine ⟨fun sub => not_sub ?_, not_sub⟩
  -- the earlier one is not smaller, so containment would be equality
  have le := size_le_of_notAfter order
  rw [← card_selection, ← card_selection] at le
  exact (Finset.eq_of_subset_of_card_le sub le).ge

end SpatialGrammar.Arrangement
