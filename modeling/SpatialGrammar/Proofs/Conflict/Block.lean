import Mathlib.Data.List.Sort
import SpatialGrammar.Conflict.Block

/-!
# The places of a block

What the list of places that hold ones is. Main statements: `sortedLT_places`, they ascend, and
`length_places`, there are as many as the block has ones.
-/

namespace SpatialGrammar.Block

variable {b : Block}

@[simp] lemma places_zero : places 0#64 = [] := by
  rw [places, dif_pos rfl]

lemma places_of_ne (h : b ≠ 0#64) : b.places = b.lowest :: b.clearLowest.places := by
  rw [places, dif_neg h]

/-- The places ascend, since what is left behind the lowest one lies above it. -/
lemma sortedLT_places (b : Block) : b.places.SortedLT := by
  apply List.Pairwise.sortedLT
  fun_induction places b with
  | case1 => exact List.Pairwise.nil
  | case2 b h _ ih =>
    refine List.Pairwise.cons (fun k hk => ?_) ih
    rw [mem_places, getLsbD_clearLowest h, Bool.and_eq_true, decide_eq_true_eq] at hk
    exact lt_of_le_of_ne (lowest_le hk.1) hk.2.symm

lemma places_eq_filter (b : Block) : b.places = (List.range 64).filter b.getLsbD := by
  apply (sortedLT_places b).eq_of_mem_iff (List.pairwise_lt_range.filter _).sortedLT
  intro k
  rw [mem_places, List.mem_filter, List.mem_range]
  exact ⟨fun one => ⟨BitVec.lt_of_getLsbD one, one⟩, And.right⟩

/-- Counting ones from the top counts the places below the top that hold ones. -/
lemma cpopNatRec_eq_add (b : Block) (k sum : Nat) :
    b.cpopNatRec k sum = sum + ((List.range k).filter b.getLsbD).length := by
  induction k generalizing sum with
  | zero => simp
  | succ k ih =>
    rw [BitVec.cpopNatRec_succ, ih, List.range_succ, List.filter_append, List.length_append]
    cases one : b.getLsbD k with
    | false => simp [one]
    | true =>
      simp only [one, Bool.toNat_true, List.filter_cons_of_pos, List.filter_nil,
        List.length_singleton]
      omega

/-- A block has as many ones as places that hold them. -/
lemma length_places (b : Block) : b.places.length = b.count := by
  rw [count, BitVec.toNat_cpop, cpopNatRec_eq_add, places_eq_filter, Nat.zero_add]

end SpatialGrammar.Block
