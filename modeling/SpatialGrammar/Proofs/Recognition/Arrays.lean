import SpatialGrammar.Proofs.Outcome
import SpatialGrammar.Proofs.Recognition.Arbitration
import SpatialGrammar.Proofs.Recognition.Cluster
import SpatialGrammar.Recognition.Arrays

/-!
# What arrays are made of

Clusters of items, and what trimming and breaking leave of them. Main statement:
`exists_items_of_arrayMatches`, an array uses none of the matches of its item pattern more often
than it is registered.
-/

namespace SpatialGrammar.Recognition

variable {α : Type} {shape : ArrayShape} {size : Option Extent} {limits : Extent}
variable {region : Option Region} {items cluster piece rest : Items α} {hull : Box}
variable {field offset : Int × Int} {numbers : List Nat} {slices : List (List Nat)}

lemma subperm_of_mem_clusters (h : cluster ∈ clusters shape items) : cluster.Subperm items := by
  unfold clusters at h
  split at h
  · exact Cluster.subperm_of_mem_lines h
  · exact Cluster.subperm_of_mem_lines h
  · exact Cluster.subperm_of_mem_fill h
  · dsimp only at h
    split at h
    · exact Cluster.subperm_of_mem_lines h
    · exact Cluster.subperm_of_mem_lines h

section trim

lemma dropLastSuch?_sublist {test : Match α → Bool} (h : dropLastSuch? test items = some rest) :
    rest.Sublist items := by
  unfold dropLastSuch? at h
  split at h
  · rw [← Option.some.inj h]
    exact List.reverse_sublist.1 (by simpa using List.eraseP_sublist)
  · cases h

lemma trimProbable_sublist (shape : ArrayShape) (size : Option Extent) (r : Region)
    (items : Items α) : (trimProbable shape size r items).Sublist items := by
  fun_induction trimProbable shape size r items with
  | case1 items large fewer eq _ ih => exact ih.trans (dropLastSuch?_sublist eq)
  | case2 items large eq => exact .refl _
  | case3 items small => exact .refl _

lemma trimEnd_sublist (shape : ArrayShape) (size : Option Extent) (items : Items α) :
    (trimEnd shape size items).Sublist items := by
  fun_induction trimEnd shape size items with
  | case1 => exact .refl _
  | case2 m rest large ih => exact ih.trans (List.dropLast_sublist _)
  | case3 m rest small => exact .refl _

lemma trim?_sublist (h : trim? shape size region items = some rest) : rest.Sublist items := by
  simp only [trim?, Option.ite_none_right_eq_some] at h
  rw [← Option.some.inj h.2]
  refine (trimEnd_sublist _ _ _).trans ?_
  split
  · exact trimProbable_sublist _ _ _ _
  · exact .refl _

end trim

section raster

/-- The fields of a raster hold numbers of items, each of them once and in ascending order. -/
lemma sublist_of_mem_rasterSlices {numbered : List (Box × Nat)}
    (h : numbers ∈ rasterSlices hull field offset numbered) :
    numbers.Sublist (numbered.map (·.2)) := by
  obtain ⟨key, -, rfl⟩ := List.mem_map.1 h
  have part := (List.filter_sublist (p := fun entry : (Int × Int) × Nat => entry.1 == key)
    (l := numbered.map fun e => (rasterField hull field offset e.1, e.2))).map (·.2)
  rwa [List.map_map] at part

lemma sublist_of_mem_fittingSlices (h : numbers ∈ fittingSlices shape limits hull items field) :
    numbers.Sublist (List.range items.length) := by
  obtain ⟨offset, -, mem⟩ := List.mem_flatMap.1 (Distinct.mem_ofList.1 h)
  dsimp only at mem
  split at mem
  · have part := sublist_of_mem_rasterSlices mem
    rwa [List.zipIdx_map_snd, List.length_map, ← List.range_eq_range'] at part
  · cases mem

lemma pick_range (items : Items α) : pick items (List.range items.length) = items := by
  rw [pick, ← List.map_coe_finRange_eq_range, filterMap_places]
  exact List.map_getElem_finRange items

lemma pick_sublist (h : numbers.Sublist (List.range items.length)) :
    (pick items numbers).Sublist items := by
  have part : (pick items numbers).Sublist (pick items (List.range items.length)) := h.filterMap _
  rwa [pick_range] at part

lemma bestSlices_subset (limit : Option Nat) (slices : List (List Nat)) :
    bestSlices limit slices ⊆ slices := by
  intro slice h
  obtain ⟨i, -, at_i⟩ := List.mem_filterMap.1 h
  exact List.mem_of_getElem? at_i

lemma bestSlices_nil (limit : Option Nat) : bestSlices limit [] = [] := by
  rw [List.eq_nil_iff_forall_not_mem]
  exact fun slice mem => List.not_mem_nil (bestSlices_subset limit [] mem)

/-- A cluster is broken up by the first raster size for which there are fitting slices, if any. -/
lemma rasterPieces_cases (limit : Option Nat) (shape : ArrayShape) (limits : Extent)
    (items : Items α) :
    (rasterPieces limit shape limits items = [] ∧
      ∀ hull, Match.hull? items = some hull → ∀ size ∈ rasterSizes limits hull,
        fittingSlices shape limits hull items size = []) ∨
    ∃ hull before size after, Match.hull? items = some hull ∧
      rasterSizes limits hull = before ++ size :: after ∧
      (∀ other ∈ before, fittingSlices shape limits hull items other = []) ∧
      fittingSlices shape limits hull items size ≠ [] ∧
      rasterPieces limit shape limits items =
        (bestSlices limit (fittingSlices shape limits hull items size)).map (pick items) := by
  unfold rasterPieces
  split
  next none => exact .inl ⟨rfl, fun hull eq => by rw [none] at eq; cases eq⟩
  next hull around =>
    generalize first : List.findSome? _ _ = result
    cases result with
    | none =>
      refine .inl ⟨by simp [bestSlices_nil], fun other eq size mem => ?_⟩
      obtain rfl : hull = other := Option.some.inj (around.symm.trans eq)
      have none_here := List.findSome?_eq_none_iff.1 first size mem
      split at none_here
      next eq => exact eq
      next => cases none_here
    | some slices =>
      obtain ⟨before, size, after, eq, found, earlier⟩ := List.findSome?_eq_some_iff.1 first
      refine .inr ⟨hull, before, size, after, around, eq, fun other mem => ?_, ?_⟩
      · have none_here := earlier other mem
        split at none_here
        next eq => exact eq
        next => cases none_here
      · split at found
        next => cases found
        next some_slice =>
          exact ⟨some_slice, by rw [Option.some.inj found]; rfl⟩

lemma mem_fittingSlices_of_mem_rasterPieces {limit : Option Nat}
    (h : piece ∈ rasterPieces limit shape limits items) :
    ∃ hull size, ∃ slice ∈ fittingSlices shape limits hull items size,
      pick items slice = piece := by
  rcases rasterPieces_cases limit shape limits items with
    ⟨nothing, -⟩ | ⟨hull, -, size, -, -, -, -, -, eq⟩
  · rw [nothing] at h
    cases h
  · obtain ⟨slice, mem, rfl⟩ := List.mem_map.1 (eq ▸ h)
    exact ⟨hull, size, slice, bestSlices_subset _ _ mem, rfl⟩

lemma sublist_of_mem_rasterPieces {limit : Option Nat}
    (h : piece ∈ rasterPieces limit shape limits items) : piece.Sublist items := by
  obtain ⟨hull, size, slice, mem, rfl⟩ := mem_fittingSlices_of_mem_rasterPieces h
  exact pick_sublist (sublist_of_mem_fittingSlices mem)

end raster

lemma subperm_of_mem_countPieces (h : piece ∈ countPieces shape items) : piece.Subperm items := by
  unfold countPieces at h
  split at h
  · cases h
  · exact Cluster.subperm_of_mem_balancedPieces (List.mem_filter.1 h).1

/-- What becomes of a cluster is part of it. -/
lemma subperm_of_mem_accept {s : Scene α} {inContext : Bool}
    (h : piece ∈ accept s shape inContext size region items) : piece.Subperm items := by
  unfold accept at h
  split at h
  · exact List.mem_singleton.1 h ▸ List.Subperm.refl _
  · cases h
  · split at h
    · exact (trim?_sublist (Option.mem_toList.1 h)).subperm
    · split at h
      · split at h
        · exact (sublist_of_mem_rasterPieces h).subperm
        · exact subperm_of_mem_countPieces h
      · cases h

section found

variable [Score α] {s : Scene α} {p : Pattern α} {inContext : Bool} {ms : List (Match α)}
variable {m : Match α}

/-- The matches of an array pattern are made of what becomes of clusters, as far as it satisfies the
own constraints. -/
lemma exists_accepted_of_arrayMatches (h : arrayMatches s p shape inContext region = .ok ms)
    (hm : m ∈ ms) :
    ∃ cluster ∈ clusters shape (s.registry.namedIn shape.item region),
      ∃ items ∈ accept s shape inContext p.size? region cluster,
        holds p.ownConstraints (ownBoxes (Match.ofItems p.name items).box) [] = .ok true ∧
          m = Match.ofItems p.name items := by
  simp only [arrayMatches, arrayCandidates, Outcome.bind_eq_ok, Outcome.pure_eq_ok] at h
  obtain ⟨-, ⟨-, -, -, -, all, h, rfl⟩, rfl⟩ := h
  obtain ⟨items, mem, eq⟩ := Outcome.exists_of_mapM_option h (arbitrate_subset _ _ hm)
  obtain ⟨cluster, inside, accepted⟩ := List.mem_flatMap.1 mem
  obtain ⟨satisfied, eq⟩ := Outcome.ite_eq_ok_some.1 eq
  exact ⟨cluster, inside, items, accepted, satisfied,
    (Option.some.inj (Outcome.pure_eq_ok.1 eq)).symm⟩

/-- An array is made of registered matches of its item pattern, none of which it uses more often
than it is registered. -/
theorem exists_items_of_arrayMatches (h : arrayMatches s p shape inContext region = .ok ms)
    (hm : m ∈ ms) : ∃ items : Items α, items.Subperm (s.registry.namedIn shape.item region) ∧
      m = Match.ofItems p.name items := by
  obtain ⟨cluster, inside, items, accepted, -, eq⟩ := exists_accepted_of_arrayMatches h hm
  exact ⟨items, (subperm_of_mem_accept accepted).trans (subperm_of_mem_clusters inside), eq⟩

end found

end SpatialGrammar.Recognition
