import Mathlib.Data.List.Nodup
import Mathlib.Data.List.ProdSigma
import SpatialGrammar.Proofs.Conflict.Retention
import SpatialGrammar.Proofs.Conflict.Spots

/-!
# Enumerating conflict-free selections

What the arrangements of a set are, with and without a limit for the number of members. The
invariant is `Covers`: every arrangement is a conflict-free selection within the limit, those below
the limit are maximal, and every maximal selection within the limit is among them; `Resolves` adds
that no arrangement is contained in another one. Main statements: `Resolves.product`, the
arrangements of two parts that are apart combine, `Resolves.fork`, those of a spot arise from
smaller sets, and `resolve_resolves`, which puts both together by induction on the budget.
-/

namespace SpatialGrammar.ConflictGraph

open Arrangement (reaches Extends Incomparable)

variable {n : Nat} {clashes : Clashes n} {G : SimpleGraph ℕ} {limit : Option Nat}
variable {s A B m : Finset ℕ} {as ready parts : List (Arrangement n)} {a b r : Arrangement n}

/-- What arrangements have to be to stand for the conflict-free selections of a set. -/
structure Covers (clashes : Clashes n) (G : SimpleGraph ℕ) (limit : Option Nat) (s : Finset ℕ)
    (as : List (Arrangement n)) : Prop where
  nonempty : as ≠ []
  tracks : ∀ a ∈ as, a.Tracks clashes
  selects : ∀ a ∈ as, Selects G s a.selection
  size_le : ∀ a ∈ as, ∀ most ∈ limit, a.size ≤ most
  maximal : ∀ a ∈ as, reaches limit a.size = false → Maximal (Selects G s) a.selection
  complete : ∀ m, Maximal (Selects G s) m → (∀ most ∈ limit, m.card ≤ most) →
    ∃ a ∈ as, a.selection = m
  distinct : limit = none → (as.map Arrangement.selection).Nodup

/-- What the resolution of a set comes to: besides, no arrangement is contained in another one. -/
structure Resolves (clashes : Clashes n) (G : SimpleGraph ℕ) (limit : Option Nat) (s : Finset ℕ)
    (as : List (Arrangement n)) : Prop extends Covers clashes G limit s as where
  antichain : as.Pairwise Incomparable

/-- Different maximal selections are not contained in each other. -/
lemma incomparable_of_maximal (ha : Maximal (Selects G s) a.selection)
    (hb : Maximal (Selects G s) b.selection) (ne : a.selection ≠ b.selection) :
    Incomparable a b :=
  ⟨fun sub => ne (ha.eq_of_le hb.prop sub), fun sub => ne (hb.eq_of_le ha.prop sub).symm⟩

/-- Settling drops what is contained in other arrangements, and no maximal selection. -/
lemma Covers.settle (h : Covers clashes G limit s as) :
    Resolves clashes G limit s (settle limit as) := by
  cases limit with
  | none =>
    refine ⟨h, ?_⟩
    have pairs := List.pairwise_map.1 (h.distinct rfl)
    refine pairs.imp_of_mem fun ha hb ne => ?_
    exact incomparable_of_maximal (h.maximal _ ha rfl) (h.maximal _ hb rfl) ne
  | some most =>
    have sub := Arrangement.retainMaximal_subset as
    refine ⟨⟨?_, fun a ha => h.tracks a (sub ha), fun a ha => h.selects a (sub ha),
      fun a ha => h.size_le a (sub ha), fun a ha => h.maximal a (sub ha), fun m hm le => ?_,
      nofun⟩, Arrangement.antichain_retainMaximal as⟩
    · obtain ⟨a, ha⟩ := List.exists_mem_of_ne_nil as h.nonempty
      obtain ⟨b, hb, -⟩ := Arrangement.exists_retained ha
      exact List.ne_nil_of_mem hb
    · obtain ⟨a, ha, rfl⟩ := h.complete m hm le
      obtain ⟨b, hb, contained⟩ := Arrangement.exists_retained ha
      exact ⟨b, hb, (hm.eq_of_le (h.selects b (sub hb)) contained).symm⟩

section product

/-- What an arrangement of one part becomes when one of the other part joins it. -/
lemma extends_of_apart (hG : Describes clashes G) (apart : Apart G A B)
    (hA : Covers clashes G limit A ready) (hB : Covers clashes G limit B parts)
    (ha : a ∈ ready) (hb : b ∈ parts) :
    Extends clashes limit a b.selection (a.grow clashes limit b.members) :=
  Arrangement.grow_extends hG (hA.tracks a ha)
    (apart.selects_union (hA.selects a ha) (hB.selects b hb)).2

/-- Without a limit different pairs of arrangements combine to different selections. -/
lemma nodup_product (hG : Describes clashes G) (apart : Apart G A B)
    (hA : Covers clashes G none A ready) (hB : Covers clashes G none B parts) :
    ((ready.flatMap fun a => parts.map fun b => a.grow clashes none b.members).map
      Arrangement.selection).Nodup := by
  have eq : (ready.flatMap fun a => parts.map fun b => a.grow clashes none b.members).map
      Arrangement.selection =
      ((ready.map Arrangement.selection).product (parts.map Arrangement.selection)).map
        fun p => p.1 ∪ p.2 := by
    simp only [List.product, List.map_flatMap, List.flatMap_map, List.map_map]
    refine List.flatMap_congr fun a ha => List.map_congr_left fun b hb => ?_
    exact (extends_of_apart hG apart hA hB ha hb).selection_eq rfl
  rw [eq]
  refine List.Nodup.map_on ?_ ((hA.distinct rfl).product (hB.distinct rfl))
  rintro ⟨u, v⟩ hp ⟨u', v'⟩ hq e
  obtain ⟨hu, hv⟩ := List.pair_mem_product.1 hp
  obtain ⟨hu', hv'⟩ := List.pair_mem_product.1 hq
  obtain ⟨a, ha, rfl⟩ := List.mem_map.1 hu
  obtain ⟨b, hb, rfl⟩ := List.mem_map.1 hv
  obtain ⟨a', ha', rfl⟩ := List.mem_map.1 hu'
  obtain ⟨b', hb', rfl⟩ := List.mem_map.1 hv'
  -- the parts of a combined selection are read off by intersecting
  have left := (hA.selects a ha).1
  have left' := (hA.selects a' ha').1
  have right := (hB.selects b hb).1
  have right' := (hB.selects b' hb').1
  have disjoint := Finset.disjoint_left.1 apart.disjoint
  simp only [Prod.mk.injEq, Finset.ext_iff, Finset.mem_union] at e ⊢
  exact ⟨fun i => by grind, fun i => by grind⟩

/-- A maximal selection of both parts is found among the combined arrangements. -/
lemma exists_product (hG : Describes clashes G) (apart : Apart G A B)
    (hA : Covers clashes G limit A ready) (hB : Covers clashes G limit B parts)
    (hm : Maximal (Selects G (A ∪ B)) m) (le : ∀ most ∈ limit, m.card ≤ most) :
    ∃ r ∈ ready.flatMap (fun a => parts.map fun b => a.grow clashes limit b.members),
      r.selection = m := by
  have hmB := apart.symm.maximal_inter (Finset.union_comm A B ▸ hm)
  have within : ∀ t, ∀ most ∈ limit, (m ∩ t).card ≤ most := fun t most hmost =>
    (Finset.card_le_card Finset.inter_subset_left).trans (le most hmost)
  obtain ⟨a, ha, eqA⟩ := hA.complete _ (apart.maximal_inter hm) (within A)
  obtain ⟨b, hb, eqB⟩ := hB.complete _ hmB (within B)
  have eq : a.selection ∪ b.selection = m := by
    rw [eqA, eqB, ← Finset.inter_union_distrib_left]
    exact Finset.inter_eq_left.2 hm.prop.1
  refine ⟨a.grow clashes limit b.members, ?_, ?_⟩
  · exact List.mem_flatMap.2 ⟨a, ha, List.mem_map.2 ⟨b, hb, rfl⟩⟩
  · have ext := extends_of_apart hG apart hA hB ha hb
    rw [ext.selection_eq_of_card_le (by rwa [eq]), eq]

/-- The arrangements of two parts that are apart combine to those of the union. -/
lemma Resolves.product (hG : Describes clashes G) (apart : Apart G A B)
    (hA : Resolves clashes G limit A ready) (hB : Resolves clashes G limit B parts) :
    Resolves clashes G limit (A ∪ B) (settle limit
      (ready.flatMap fun a => parts.map fun b => a.grow clashes limit b.members)) := by
  have mem : ∀ r ∈ ready.flatMap (fun a => parts.map fun b => a.grow clashes limit b.members),
      ∃ a ∈ ready, ∃ b ∈ parts, Extends clashes limit a b.selection r := by
    intro r hr
    obtain ⟨a, ha, hr⟩ := List.mem_flatMap.1 hr
    obtain ⟨b, hb, rfl⟩ := List.mem_map.1 hr
    exact ⟨a, ha, b, hb, extends_of_apart hG apart hA.toCovers hB.toCovers ha hb⟩
  apply Covers.settle
  refine ⟨?_, fun r hr => ?_, fun r hr => ?_, fun r hr most hm => ?_, fun r hr free => ?_,
    fun m hm le => ?_, ?_⟩
  · obtain ⟨a, ha⟩ := List.exists_mem_of_ne_nil ready hA.nonempty
    obtain ⟨b, hb⟩ := List.exists_mem_of_ne_nil parts hB.nonempty
    exact List.ne_nil_of_mem (List.mem_flatMap.2 ⟨a, ha, List.mem_map_of_mem hb⟩)
  · obtain ⟨a, -, b, -, ext⟩ := mem r hr
    exact ext.tracks
  · obtain ⟨a, ha, b, hb, ext⟩ := mem r hr
    exact (apart.selects_union (hA.selects a ha) (hB.selects b hb)).mono ext.upper
  · obtain ⟨a, ha, b, hb, ext⟩ := mem r hr
    exact ext.size_le most hm (hA.size_le a ha most hm)
  · obtain ⟨a, ha, b, hb, ext⟩ := mem r hr
    have eq := ext.selection_eq free
    -- neither part has reached the limit, since the union has not
    have freeA := Arrangement.reaches_eq_false_of_subset (eq ▸ Finset.subset_union_left) free
    have freeB := Arrangement.reaches_eq_false_of_subset (eq ▸ Finset.subset_union_right) free
    rw [eq]
    exact apart.maximal_union (hA.maximal a ha freeA) (hB.maximal b hb freeB)
  · exact exists_product hG apart hA.toCovers hB.toCovers hm le
  · rintro rfl
    exact nodup_product hG apart hA.toCovers hB.toCovers

end product

section fork

variable {spot : IndexSet n} {seed : Nat}

/-- The arrangements of a spot that hold an element: what does not clash with it joins it. -/
def holding (clashes : Clashes n) (limit : Option Nat) (seed : Nat) (as : List (Arrangement n)) :
    List (Arrangement n) :=
  as.map fun a => (Arrangement.empty.grow clashes limit (IndexSet.empty.insert seed)).grow clashes
    limit a.members

/-- The arrangements of a spot that lack an element but hold a rival, or are full. -/
def lacking (clashes : Clashes n) (limit : Option Nat) (spot : IndexSet n) (seed : Nat)
    (as : List (Arrangement n)) : List (Arrangement n) :=
  as.filter fun a =>
    !a.members.isDisjoint ((clashes seed).inter spot) || reaches limit a.size

/-- What a member of a spot clashes with inside it. -/
lemma mem_rivals (hG : Describes clashes G) {j : Nat} (hj : j ∈ spot.toFinset) :
    j ∈ ((clashes seed).inter spot).toFinset ↔ G.Adj seed j := by
  rw [IndexSet.toFinset_inter, Finset.mem_inter, IndexSet.mem_toFinset, hG seed j]
  exact and_iff_left hj

/-- An element, and then a selection of what does not conflict with it. -/
lemma extends_holding (limit : Option Nat) (hG : Describes clashes G) (hs : seed ∈ spot.toFinset)
    (ha : Selects G ((spot.toFinset \ ((clashes seed).inter spot).toFinset).erase seed)
      a.selection) :
    Extends clashes limit Arrangement.empty (insert seed a.selection)
      ((Arrangement.empty.grow clashes limit (IndexSet.empty.insert seed)).grow clashes limit
        a.members) := by
  have lt := IndexSet.lt_of_contains (IndexSet.mem_toFinset.1 hs)
  have indep := (selects_insert (fun j hj => mem_rivals hG hj) hs ha).2
  have anchor : Extends clashes limit Arrangement.empty {seed}
      (Arrangement.empty.grow clashes limit (IndexSet.empty.insert seed)) := by
    rw [← toFinset_singleton lt]
    apply Arrangement.grow_extends hG (Arrangement.tracks_empty clashes)
    simp [toFinset_singleton lt]
  have sub := anchor.upper
  rw [Arrangement.selection_empty, Finset.empty_union] at sub
  refine anchor.trans (Arrangement.grow_extends hG anchor.tracks (indep.mono ?_))
  rw [Finset.insert_eq]
  exact_mod_cast Finset.union_subset_union_left sub

variable {bs : List (Arrangement n)}

/-- Without a limit the selections with an element and those without it are all different. -/
lemma nodup_fork (hG : Describes clashes G) (hs : seed ∈ spot.toFinset)
    (hW : Covers clashes G none
      ((spot.toFinset \ ((clashes seed).inter spot).toFinset).erase seed) as)
    (hL : Covers clashes G none (spot.toFinset.erase seed) bs) :
    ((holding clashes none seed as ++ lacking clashes none spot seed bs).map
      Arrangement.selection).Nodup := by
  have eq : (holding clashes none seed as).map Arrangement.selection =
      (as.map Arrangement.selection).map (insert seed) := by
    rw [holding, List.map_map, List.map_map]
    refine List.map_congr_left fun a ha => ?_
    have ext := extends_holding none hG hs (hW.selects a ha)
    simpa using ext.selection_eq rfl
  rw [List.map_append, eq]
  refine List.Nodup.append ?_ ?_ ?_
  · refine List.Nodup.map_on (fun u hu v hv e => ?_) (hW.distinct rfl)
    obtain ⟨a, ha, rfl⟩ := List.mem_map.1 hu
    obtain ⟨b, hb, rfl⟩ := List.mem_map.1 hv
    have out : ∀ c ∈ as, seed ∉ c.selection := fun c hc mem =>
      Finset.notMem_erase seed _ ((hW.selects c hc).1 mem)
    rw [← Finset.erase_insert (out a ha), e, Finset.erase_insert (out b hb)]
  · exact (hL.distinct rfl).sublist (List.filter_sublist.map _)
  · intro u hu hv
    obtain ⟨w, -, rfl⟩ := List.mem_map.1 hu
    obtain ⟨b, hb, e⟩ := List.mem_map.1 hv
    have mem : seed ∈ b.selection := e ▸ Finset.mem_insert_self seed w
    exact Finset.notMem_erase seed _ ((hL.selects b (List.mem_of_mem_filter hb)).1 mem)

/-- An arrangement that lacks an element has a rival of it, or is full. -/
lemma mem_lacking (hG : Describes clashes G)
    (hL : Covers clashes G limit (spot.toFinset.erase seed) bs)
    (hr : r ∈ lacking clashes limit spot seed bs) :
    r ∈ bs ∧ ((∃ j ∈ r.selection, G.Adj seed j) ∨ reaches limit r.size = true) := by
  obtain ⟨hr, holds⟩ := List.mem_filter.1 hr
  refine ⟨hr, (Bool.or_eq_true _ _ ▸ holds).imp_left fun meets => ?_⟩
  rw [Bool.not_eq_true', Bool.eq_false_iff, ne_eq, IndexSet.isDisjoint_iff,
    Finset.not_disjoint_iff] at meets
  obtain ⟨j, hj, rival⟩ := meets
  have inside := Finset.mem_of_mem_erase ((hL.selects r hr).1 hj)
  exact ⟨j, hj, (mem_rivals hG inside).1 rival⟩

/-- A maximal selection of a spot that holds an element is found among those that hold it. -/
lemma exists_holding (hG : Describes clashes G) (hs : seed ∈ spot.toFinset)
    (hW : Covers clashes G limit
      ((spot.toFinset \ ((clashes seed).inter spot).toFinset).erase seed) as)
    (hm : Maximal (Selects G spot.toFinset) m) (le : ∀ most ∈ limit, m.card ≤ most)
    (held : seed ∈ m) : ∃ r ∈ holding clashes limit seed as, r.selection = m := by
  have rest := maximal_erase (fun j hj => mem_rivals hG hj) held hm
  obtain ⟨a, ha, eq⟩ := hW.complete _ rest fun most hmost =>
    Finset.card_erase_le.trans (le most hmost)
  have ext := extends_holding limit hG hs (hW.selects a ha)
  have whole : insert seed a.selection = m := by rw [eq, Finset.insert_erase held]
  refine ⟨_, List.mem_map_of_mem ha, ?_⟩
  rw [ext.selection_eq_of_card_le (by simpa [whole] using le), whole]
  simp

/-- A maximal selection of a spot that lacks an element is found among those that lack it. -/
lemma exists_lacking (hG : Describes clashes G) (hs : seed ∈ spot.toFinset)
    (hL : Covers clashes G limit (spot.toFinset.erase seed) bs)
    (hm : Maximal (Selects G spot.toFinset) m) (le : ∀ most ∈ limit, m.card ≤ most)
    (lacks : seed ∉ m) : ∃ r ∈ lacking clashes limit spot seed bs, r.selection = m := by
  obtain ⟨b, hb, rfl⟩ := hL.complete m (maximal_lacking hm lacks) le
  obtain ⟨j, hj, adj⟩ := (maximal_selects_iff.1 hm).2 seed hs lacks
  refine ⟨b, List.mem_filter.2 ⟨hb, ?_⟩, rfl⟩
  have meets : ¬ Disjoint b.selection ((clashes seed).inter spot).toFinset :=
    Finset.not_disjoint_iff.2 ⟨j, hj, (mem_rivals hG (hm.prop.1 hj)).2 adj⟩
  rw [Bool.or_eq_true, Bool.not_eq_true', Bool.eq_false_iff, ne_eq, IndexSet.isDisjoint_iff]
  exact .inl meets

/-- The arrangements of a spot arise from those of what does not conflict with one of its members,
and from those of what is left without the member. -/
lemma Resolves.fork (hG : Describes clashes G) (hs : seed ∈ spot.toFinset)
    (hW : Resolves clashes G limit
      ((spot.toFinset \ ((clashes seed).inter spot).toFinset).erase seed) as)
    (hL : Resolves clashes G limit (spot.toFinset.erase seed) bs) :
    Resolves clashes G limit spot.toFinset
      (settle limit (holding clashes limit seed as ++ lacking clashes limit spot seed bs)) := by
  have rivals : ∀ j ∈ spot.toFinset, j ∈ ((clashes seed).inter spot).toFinset ↔ G.Adj seed j :=
    fun j hj => mem_rivals hG hj
  have source : ∀ r ∈ holding clashes limit seed as ++ lacking clashes limit spot seed bs,
      (∃ a ∈ as, Extends clashes limit Arrangement.empty (insert seed a.selection) r) ∨
        r ∈ bs ∧ ((∃ j ∈ r.selection, G.Adj seed j) ∨ reaches limit r.size = true) := by
    intro r hr
    cases List.mem_append.1 hr with
    | inl hr =>
      obtain ⟨a, ha, rfl⟩ := List.mem_map.1 hr
      exact .inl ⟨a, ha, extends_holding limit hG hs (hW.selects a ha)⟩
    | inr hr => exact .inr (mem_lacking hG hL.toCovers hr)
  apply Covers.settle
  refine ⟨?_, fun r hr => ?_, fun r hr => ?_, fun r hr most hm => ?_, fun r hr free => ?_,
    fun m hm le => ?_, ?_⟩
  · have ne : holding clashes limit seed as ≠ [] := by
      simpa [holding] using hW.nonempty
    simp [ne]
  · rcases source r hr with ⟨a, -, ext⟩ | ⟨hr, -⟩
    · exact ext.tracks
    · exact hL.tracks r hr
  · rcases source r hr with ⟨a, ha, ext⟩ | ⟨hr, -⟩
    · apply (selects_insert rivals hs (hW.selects a ha)).mono
      simpa using ext.upper
    · have sel := hL.selects r hr
      exact ⟨sel.1.trans (Finset.erase_subset seed _), sel.2⟩
  · rcases source r hr with ⟨a, -, ext⟩ | ⟨hr, -⟩
    · exact ext.size_le most hm (by simp [← Arrangement.card_selection])
    · exact hL.size_le r hr most hm
  -- below the limit an arrangement lacks the element only if it has a rival of it
  · rcases source r hr with ⟨a, ha, ext⟩ | ⟨hr, ⟨j, hj, adj⟩ | full⟩
    · have eq : r.selection = insert seed a.selection := by simpa using ext.selection_eq free
      have freeA := Arrangement.reaches_eq_false_of_subset (eq ▸ Finset.subset_insert seed _) free
      rw [eq]
      exact maximal_insert rivals hs (hW.maximal a ha freeA)
    · exact maximal_of_rival (hL.maximal r hr free) hj adj
    · simp [free] at full
  · by_cases held : seed ∈ m
    · obtain ⟨r, hr, eq⟩ := exists_holding hG hs hW.toCovers hm le held
      exact ⟨r, List.mem_append_left _ hr, eq⟩
    · obtain ⟨r, hr, eq⟩ := exists_lacking hG hs hL.toCovers hm le held
      exact ⟨r, List.mem_append_right _ hr, eq⟩
  · rintro rfl
    exact nodup_fork hG hs hW.toCovers hL.toCovers

end fork

section resolve

variable {smaller : IndexSet n → List (Arrangement n)} {spot pending : IndexSet n} {budget : Nat}

/-- A part without edges has one maximal selection, which is found by growing. -/
lemma resolves_singleton (free : Selects G A A)
    (ext : Extends clashes limit Arrangement.empty A a) : Resolves clashes G limit A [a] := by
  have whole : Maximal (Selects G A) A := ⟨free, fun t ht _ => ht.1⟩
  have upper : a.selection ⊆ A := by simpa using ext.upper
  refine ⟨⟨List.cons_ne_nil a [], ?_, ?_, ?_, ?_, fun m hm le => ?_, fun _ => ?_⟩, ?_⟩
  · simpa using ext.tracks
  · simpa using free.mono upper
  · intro r hr most hm
    rw [List.mem_singleton.1 hr]
    exact ext.size_le most hm (by simp [← Arrangement.card_selection])
  · intro r hr below
    rw [List.mem_singleton.1 hr] at below ⊢
    have eq : a.selection = A := by simpa using ext.selection_eq below
    rwa [eq]
  · have eq : m = A := hm.eq_of_le free hm.prop.1
    refine ⟨a, List.mem_singleton_self a, ?_⟩
    rw [ext.selection_eq_of_card_le (by simpa [eq] using le), eq]
    simp
  · exact List.nodup_singleton _
  · exact List.pairwise_singleton _ a

/-- The arrangements of a spot, provided that those of smaller sets are found. -/
lemma spotArrangements_resolves (hG : Describes clashes G)
    (h : ∀ t : IndexSet n, t.toFinset ⊂ spot.toFinset →
      Resolves clashes G limit t.toFinset (smaller t)) :
    Resolves clashes G limit spot.toFinset (spotArrangements clashes limit smaller spot) := by
  unfold spotArrangements
  split
  next none =>
    rw [IndexSet.toFinset_eq_empty_of_first? none]
    exact resolves_singleton (selects_empty G ∅) (Extends.refl (Arrangement.tracks_empty clashes))
  next seed first =>
    have hs := IndexSet.mem_of_first? first
    have lack : spot.toFinset.erase seed ⊂ spot.toFinset := Finset.erase_ssubset hs
    have hW := h ((spot.diff ((clashes seed).inter spot)).erase seed) <| by
      rw [IndexSet.toFinset_erase, IndexSet.toFinset_diff]
      exact (Finset.erase_subset_erase seed Finset.sdiff_subset).trans_ssubset lack
    have hL := h (spot.erase seed) (by rwa [IndexSet.toFinset_erase])
    rw [IndexSet.toFinset_erase, IndexSet.toFinset_diff] at hW
    rw [IndexSet.toFinset_erase] at hL
    exact Resolves.fork hG hs hW hL

/-- The arrangements of spots that are taken from a set one after the other combine. -/
lemma foldl_spots_resolves (hG : Describes clashes G)
    (h : ∀ t : IndexSet n, t.toFinset ⊆ pending.toFinset →
      Resolves clashes G limit t.toFinset (spotArrangements clashes limit smaller t))
    (enough : pending.toFinset.card ≤ budget) (apart : Apart G A pending.toFinset)
    (hA : Resolves clashes G limit A ready) :
    Resolves clashes G limit (A ∪ pending.toFinset)
      ((spots clashes budget pending).foldl (fun ready spot =>
        let parts := spotArrangements clashes limit smaller spot
        settle limit (ready.flatMap fun a => parts.map fun b => a.grow clashes limit b.members))
        ready) := by
  -- `A` is what has been taken from the set so far, and is apart from the rest
  induction budget generalizing pending A ready with
  | zero =>
    rw [Finset.card_eq_zero.1 (Nat.le_zero.1 enough), Finset.union_empty]
    exact hA
  | succ budget ih =>
    simp only [spots]
    split
    next none =>
      rw [IndexSet.toFinset_eq_empty_of_first? none, Finset.union_empty]
      exact hA
    next seed first =>
      have hs := IndexSet.mem_of_first? first
      have lt := IndexSet.lt_of_contains (IndexSet.mem_toFinset.1 hs)
      have sub := connectedSpot_subset hG hs
      have inside := mem_connectedSpot pending hG lt
      have left := apart_connectedSpot pending hG lt
      have step := Resolves.product hG (apart.mono_right sub) hA (h _ sub)
      rw [List.foldl_cons, ← Finset.union_sdiff_of_subset sub, ← Finset.union_assoc,
        ← IndexSet.toFinset_diff]
      rw [← IndexSet.toFinset_diff] at left
      have rest : (pending.diff (connectedSpot clashes pending seed)).toFinset ⊆
          pending.toFinset := by simp
      refine ih (fun t ht => h t (ht.trans rest)) ?_ ((apart.mono_right rest).union_left left) step
      -- the seed is taken away with its spot
      have fewer : (pending.diff (connectedSpot clashes pending seed)).toFinset.card <
          pending.toFinset.card := by
        apply Finset.card_lt_card
        rw [IndexSet.toFinset_diff]
        exact Finset.sdiff_ssubset sub ⟨seed, inside⟩
      omega

/-- The resolution of a set, provided that the budget is greater than the number of its members. -/
theorem resolve_resolves (hG : Describes clashes G) {s : IndexSet n}
    (enough : s.toFinset.card < budget) :
    Resolves clashes G limit s.toFinset (resolve clashes limit budget s) := by
  induction budget generalizing s with
  | zero => exact absurd enough (Nat.not_lt_zero _)
  | succ budget ih =>
    have start : Resolves clashes G limit (free clashes s).toFinset
        [Arrangement.empty.grow clashes limit (free clashes s)] := by
      apply resolves_singleton (selects_free hG)
      apply Arrangement.grow_extends hG (Arrangement.tracks_empty clashes)
      simpa using (selects_free hG).2
    have sub : (free clashes s).toFinset ⊆ s.toFinset := fun i hi => ((mem_free hG).1 hi).1
    have apart := apart_free hG (s := s)
    rw [← IndexSet.toFinset_diff] at apart
    rw [← Finset.union_sdiff_of_subset sub, ← IndexSet.toFinset_diff]
    refine foldl_spots_resolves hG (fun t ht => ?_) ?_ apart start
    -- whatever a spot forks into lacks a member of the set, so that the lesser budget is enough
    · apply spotArrangements_resolves hG
      intro u hu
      apply ih
      have le : t.toFinset ⊆ s.toFinset := ht.trans (by simp)
      have lt := Finset.card_lt_card (hu.trans_subset le)
      omega
    · have le := Finset.card_le_card (IndexSet.toFinset_subset_range (s.diff (free clashes s)))
      rwa [Finset.card_range] at le

end resolve

end SpatialGrammar.ConflictGraph
