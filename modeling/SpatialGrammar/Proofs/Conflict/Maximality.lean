import SpatialGrammar.Proofs.Conflict.Retention

/-!
# What is retained

The arrangements that are retained of a list, told by their members alone. Main statements:
`mem_map_retainMaximal`, they have the maximal ones of the sets of members on the list, and
`retainMaximal_exact`, which adds that each set is retained once and in its place, whatever the order
of the list, and that there is nothing left to drop.
-/

namespace SpatialGrammar

/-- Larger sets come first, those of one size in the order of their members. -/
def IndexSet.Precedes {n : Nat} (s t : IndexSet n) : Prop :=
  t.size < s.size ∨ s.size = t.size ∧ s.toList < t.toList

namespace Arrangement

variable {n : Nat} {a b : Arrangement n} {as bs earlier : List (Arrangement n)}
variable {last : Option (IndexSet n)} {S : Finset ℕ}

lemma not_precedes_of_precedes {s t : IndexSet n} (h : s.Precedes t) : ¬ t.Precedes s := by
  rintro (lt | ⟨eq, lt⟩)
  · rcases h with lt' | ⟨eq', -⟩ <;> omega
  · rcases h with lt' | ⟨-, lt'⟩
    · omega
    · exact lt.asymm lt'

/-- Of two arrangements with different members the one that does not come after the other comes
first. -/
lemma precedes_of_notAfter (h : notAfter a b = true) (ne : a.selection ≠ b.selection) :
    a.members.Precedes b.members := by
  simp only [notAfter, Bool.or_eq_true, Bool.and_eq_true, decide_eq_true_eq,
    lexicographic_iff] at h
  rcases h with larger | same
  · exact .inl larger
  · refine .inr ⟨same.1, lt_of_le_of_ne same.2 fun members => ne ?_⟩
    rw [selection, IndexSet.toFinset, members]
    rfl

instance : Std.Symm (Incomparable (n := n)) := ⟨fun _ _ => And.symm⟩

lemma Incomparable.ne (h : Incomparable a b) : a.selection ≠ b.selection :=
  fun same => h.1 same.le

/-- What is retained has the maximal ones of the sets of members. -/
theorem mem_map_retainMaximal :
    S ∈ (retainMaximal as).map selection ↔ Maximal (· ∈ as.map selection) S := by
  constructor
  · intro mem
    obtain ⟨a, ha, rfl⟩ := List.mem_map.1 mem
    refine ⟨List.mem_map_of_mem (retainMaximal_subset as ha), fun T hT sub => ?_⟩
    obtain ⟨c, hc, rfl⟩ := List.mem_map.1 hT
    obtain ⟨b, hb, sub'⟩ := exists_retained hc
    -- the arrangement lies in another retained one, which can only be itself
    by_cases e : a = b
    · rw [e]
      exact sub'
    · exact absurd (sub.trans sub') ((antichain_retainMaximal as).forall ha hb e).1
  · intro maximal
    obtain ⟨a, ha, rfl⟩ := List.mem_map.1 maximal.prop
    obtain ⟨b, hb, sub⟩ := exists_retained ha
    rw [maximal.eq_of_le (List.mem_map_of_mem (retainMaximal_subset as hb)) sub]
    exact List.mem_map_of_mem hb

/-- What is retained comes in order, and no members come twice. -/
lemma pairwise_retainMaximal (as : List (Arrangement n)) :
    (retainMaximal as).Pairwise fun a b => a.members.Precedes b.members := by
  have sorted := (pairwise_inOrder as).sublist (retainMaximal_sublist as)
  exact (sorted.and (antichain_retainMaximal as)).imp fun ⟨order, apart⟩ =>
    precedes_of_notAfter order apart.ne

lemma nodup_map_retainMaximal (as : List (Arrangement n)) :
    ((retainMaximal as).map selection).Nodup :=
  List.pairwise_map.2 ((antichain_retainMaximal as).imp Incomparable.ne)

/-- The order of the list does not matter to the members that are retained. -/
lemma map_retainMaximal_perm (h : as.Perm bs) :
    (retainMaximal as).map members = (retainMaximal bs).map members := by
  have sorted : ∀ cs : List (Arrangement n),
      ((retainMaximal cs).map members).Pairwise IndexSet.Precedes := fun cs =>
    List.pairwise_map.2 (pairwise_retainMaximal cs)
  have perm : ((retainMaximal as).map selection).Perm ((retainMaximal bs).map selection) := by
    rw [List.perm_ext_iff_of_nodup (nodup_map_retainMaximal as) (nodup_map_retainMaximal bs)]
    intro S
    simp only [mem_map_retainMaximal, (h.map selection).mem_iff]
  have views : ∀ cs : List (Arrangement n),
      (cs.map members).map IndexSet.toFinset = cs.map selection := fun cs => List.map_map
  rw [← views, ← views, List.map_perm_map_iff IndexSet.toFinset_injective] at perm
  refine perm.eq_of_pairwise ?_ (sorted as) (sorted bs)
  exact fun s t _ _ before after => absurd after (not_precedes_of_precedes before)

section again

/-- Nothing is dropped where no members come twice. -/
lemma dropRepeated_eq_self (distinct : as.Pairwise fun a b => a.members ≠ b.members)
    (fresh : ∀ a ∈ as, last ≠ some a.members) : dropRepeated last as = as := by
  induction as generalizing last with
  | nil => rfl
  | cons a rest ih =>
    rw [List.pairwise_cons] at distinct
    rw [dropRepeated, if_neg (fresh a List.mem_cons_self), ih distinct.2]
    exact fun b hb same => distinct.1 b hb (Option.some.inj same)

/-- Nothing is dropped where nothing is contained in what comes before it. -/
lemma dropContained_eq_self (apart : as.Pairwise fun a b => ¬ b.selection ⊆ a.selection)
    (free : ∀ a ∈ as, ∀ b ∈ earlier, ¬ a.selection ⊆ b.selection) :
    dropContained earlier as = as := by
  induction as generalizing earlier with
  | nil => rfl
  | cons a rest ih =>
    rw [List.pairwise_cons] at apart
    have stays : ¬ (earlier.any fun b => a.members.isSubset b.members) = true := fun contained => by
      obtain ⟨b, hb, sub⟩ := any_isSubset_iff.1 contained
      exact free a List.mem_cons_self b hb sub
    rw [dropContained, if_neg stays, ih apart.2]
    intro c hc b hb
    cases hb with
    | head => exact apart.1 c hc
    | tail _ hb => exact free c (List.mem_cons_of_mem a hc) b hb

/-- Retaining once more drops nothing and keeps the order. -/
lemma retainMaximal_retainMaximal (as : List (Arrangement n)) :
    retainMaximal (retainMaximal as) = retainMaximal as := by
  have antichain := antichain_retainMaximal as
  have sorted : inOrder (retainMaximal as) = retainMaximal as := by
    rw [inOrder_eq_mergeSort]
    exact List.mergeSort_of_pairwise ((pairwise_inOrder as).sublist (retainMaximal_sublist as))
  have once : dropRepeated none (retainMaximal as) = retainMaximal as := by
    apply dropRepeated_eq_self (antichain.imp fun h same => h.ne ?_)
    · exact fun a _ => (Option.some_ne_none a.members).symm
    · rw [selection, same, selection]
  rw [retainMaximal, sorted, once]
  exact dropContained_eq_self (antichain.imp And.right) fun _ _ b hb =>
    absurd hb List.not_mem_nil

end again

/-- The retained arrangements have exactly the maximal ones of the sets of members on the list, each
of them once, larger ones first and those of one size in the order of their members. The members
that are retained do not depend on the order of the list, and retaining once more changes nothing. -/
theorem retainMaximal_exact (as : List (Arrangement n)) :
    retainMaximal as ⊆ as ∧
      (∀ S, S ∈ (retainMaximal as).map selection ↔ Maximal (· ∈ as.map selection) S) ∧
      ((retainMaximal as).map selection).Nodup ∧
      ((retainMaximal as).map members).Pairwise IndexSet.Precedes ∧
      (∀ bs, as.Perm bs → (retainMaximal bs).map members = (retainMaximal as).map members) ∧
      retainMaximal (retainMaximal as) = retainMaximal as := by
  refine ⟨retainMaximal_subset as, fun S => mem_map_retainMaximal, nodup_map_retainMaximal as,
    List.pairwise_map.2 (pairwise_retainMaximal as), fun bs h => ?_, retainMaximal_retainMaximal as⟩
  exact (map_retainMaximal_perm h).symm

/-- Selections of three indices: one is contained in others, and one comes twice. -/
def nested : List (Arrangement 3) :=
  [[2], [0, 2], [1, 2], [0, 2]].map fun is => ⟨IndexSet.ofList is, IndexSet.empty⟩

theorem retainMaximal_exact_reverse :
    nested.Perm nested.reverse ∧
      (retainMaximal nested.reverse).map members = (retainMaximal nested).map members := by
  have perm : nested.Perm nested.reverse := nested.reverse_perm.symm
  exact ⟨perm, (retainMaximal_exact nested).2.2.2.2.1 nested.reverse perm⟩

example : (retainMaximal nested).map (fun a => a.members.toList) = [[0, 2], [1, 2]] := by
  cbv

end Arrangement

end SpatialGrammar
