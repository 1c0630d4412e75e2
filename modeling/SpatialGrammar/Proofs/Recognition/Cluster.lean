import Mathlib.Data.List.Perm.Subperm
import Mathlib.Data.List.SplitBy
import SpatialGrammar.Recognition.Cluster

/-!
# Clusters are parts of the items

No item is used more often in a cluster than it is given. Main statements: `subperm_of_mem_lines`,
`subperm_of_mem_fill` and `subperm_of_mem_balancedPieces`, one for each way to collect items.
-/

namespace SpatialGrammar.Recognition.Cluster

variable {ι : Type} {box : ι → Box} {gap : Interval} {s : Side} {items cluster : List ι}
variable {related : ι → ι → Bool} {i : ι} {queue unseen pool starts numbered area : Numbered ι}
variable {targets : List Nat} {room common most : Nat}

lemma sublist_of_mem_splitBy {test : ι → ι → Bool} (h : cluster ∈ items.splitBy test) :
    cluster.Sublist items := by
  have part := List.sublist_flatten_of_mem h
  rwa [List.flatten_splitBy] at part

lemma subperm_of_mem_lines (h : cluster ∈ lines box gap s items) : cluster.Subperm items := by
  obtain ⟨cross, -, mem⟩ := List.mem_flatMap.1 h
  have line : (lineAt box s items cross).Subperm items :=
    (List.mergeSort_perm _ _).subperm.trans List.filter_sublist.subperm
  exact (sublist_of_mem_splitBy mem).subperm.trans line

section numbered

/-- Items that are part of numbered ones are part of the items without numbers. -/
lemma subperm_of_zipIdx (h : area.Subperm items.zipIdx) : (area.map (·.1)).Subperm items := by
  obtain ⟨part, perm, sub⟩ := h
  have whole := sub.map (·.1)
  rw [List.zipIdx_map_fst] at whole
  exact (perm.map _).symm.subperm.trans whole.subperm

lemma eq_of_mem_zipIdx {p q : ι × Nat} (hp : p ∈ items.zipIdx) (hq : q ∈ items.zipIdx)
    (same : q.2 = p.2) : q = p := by
  rw [List.mem_zipIdx_iff_getElem?] at hp hq
  rw [same, hp] at hq
  exact Prod.ext (Option.some.inj hq).symm same

/-- The items to which an item is related and those to which it is not are all items. -/
lemma reachedFrom_append_missedFrom (related : ι → ι → Bool) (i : ι) (pool : Numbered ι) :
    (reachedFrom related i pool ++ missedFrom related i pool).Perm pool :=
  List.filter_append_perm _ _

lemma without_sublist (items taken : Numbered ι) : (without items taken).Sublist items :=
  List.filter_sublist

end numbered

section fill

/-- Following neighbours sorts all items into those that are reached and those that are not. -/
lemma spread_perm (related : ι → ι → Bool) (queue unseen : Numbered ι) :
    ((spread related queue unseen).1 ++ (spread related queue unseen).2).Perm
      (queue ++ unseen) := by
  fun_induction spread related queue unseen with
  | case1 unseen => exact .refl _
  | case2 unseen p queue reached left eq ih =>
    rw [eq] at ih
    refine .cons p (ih.trans ?_)
    rw [List.append_assoc]
    exact (reachedFrom_append_missedFrom related p.1 unseen).append_left queue

lemma spread_sublist (related : ι → ι → Bool) (queue unseen : Numbered ι) :
    (spread related queue unseen).2.Sublist unseen := by
  fun_induction spread related queue unseen with
  | case1 unseen => exact .refl _
  | case2 unseen p queue reached left eq ih =>
    rw [eq] at ih
    exact ih.trans List.filter_sublist

/-- An area is part of the items that have not been seen, if these are told apart by their
numbers. -/
lemma subperm_of_mem_areasFrom
    (distinct : ∀ p ∈ starts, ∀ q ∈ unseen, q.2 = p.2 → q = p)
    (h : area ∈ areasFrom related starts unseen) : area.Subperm unseen := by
  induction starts generalizing unseen with
  | nil => cases h
  | cons start rest ih =>
    obtain ⟨here, later⟩ := List.forall_mem_cons.1 distinct
    rw [areasFrom] at h
    split at h
    next fresh =>
      have fewer := without_sublist unseen [start]
      cases List.mem_cons.1 h with
      | inl first =>
        obtain ⟨q, hq, same⟩ := List.any_eq_true.1 fresh
        have mem : start ∈ unseen := here q hq (by simpa using same) ▸ hq
        have out : start ∉ without unseen [start] := by simp [without]
        have part := (List.sublist_append_left _ _).subperm.trans
          (spread_perm related [start] (without unseen [start])).subperm
        rw [← first] at part
        exact part.trans (List.cons_subperm_of_not_mem_of_mem out mem fewer.subperm)
      | inr h =>
        have left := (spread_sublist related [start] (without unseen [start])).trans fewer
        exact (ih (fun p hp q hq => later p hp q (left.subset hq)) h).trans left.subperm
    next => exact ih later h

theorem subperm_of_mem_fill (h : cluster ∈ fill box gap items) : cluster.Subperm items := by
  obtain ⟨area, mem, rfl⟩ := List.mem_map.1 h
  refine subperm_of_zipIdx (subperm_of_mem_areasFrom (fun p hp q hq same => ?_) mem)
  exact eq_of_mem_zipIdx (List.mem_mergeSort.1 hp) hq same

end fill

section pieces

lemma grow_subperm (related : ι → ι → Bool) (room : Nat) (queue pool : Numbered ι) :
    (grow related room queue pool).Subperm (queue ++ pool) := by
  induction room generalizing queue pool with
  | zero => exact List.nil_subperm
  | succ room ih =>
    cases queue with
    | nil => exact List.nil_subperm
    | cons p queue =>
      have part := ih (queue ++ reachedFrom related p.1 pool) (missedFrom related p.1 pool)
      rw [List.append_assoc] at part
      refine (List.subperm_cons p).2 (part.trans ?_)
      exact ((reachedFrom_append_missedFrom related p.1 pool).append_left queue).subperm

lemma subperm_of_mem_pieces {piece items : Numbered ι}
    (h : piece ∈ pieces related targets common items) : piece.Subperm items := by
  fun_induction pieces related targets common items with
  | case1 => cases h
  | case2 targets start rest more ih =>
    cases List.mem_cons.1 h with
    | inl first =>
      rw [first]
      refine (List.subperm_cons start).2 ?_
      exact (grow_subperm related _ _ _).trans
        (reachedFrom_append_missedFrom related start.1 rest).subperm
    | inr h => exact (ih h).trans (((without_sublist rest more).cons start).subperm)

theorem subperm_of_mem_balancedPieces (h : cluster ∈ balancedPieces box gap most items) :
    cluster.Subperm items := by
  obtain ⟨piece, mem, rfl⟩ := List.mem_map.1 h
  exact subperm_of_zipIdx ((subperm_of_mem_pieces mem).trans (List.mergeSort_perm _ _).subperm)

end pieces

end SpatialGrammar.Recognition.Cluster
