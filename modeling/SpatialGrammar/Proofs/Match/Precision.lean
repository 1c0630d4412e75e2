import Mathlib.Algebra.BigOperators.GroupWithZero.Action
import Mathlib.Algebra.Order.BigOperators.Group.List
import Mathlib.Algebra.Order.Field.Basic
import Mathlib.Algebra.Order.Ring.Rat
import Mathlib.Data.List.Perm.Subperm
import Mathlib.Order.Interval.Set.Defs
import Mathlib.Tactic.NormNum
import SpatialGrammar.Proofs.Match
import SpatialGrammar.Proofs.Order.NameMap

/-!
# Precision is a share

In exact numbers the precision of a match measures how much is reached of what could be. Main
statement: `Match.precision_normalized`, it lies between zero and one, and is one if nothing is
missing anywhere in the match.
-/

namespace SpatialGrammar

open Set (Icc)

namespace Score

variable {xs : List ℚ}

lemma sum_eq (xs : List ℚ) : Score.sum xs = xs.sum :=
  (List.sum_eq_foldl).symm

/-- The mean of no numbers is zero, as is a quotient by zero. -/
lemma mean_eq (xs : List ℚ) : mean xs = xs.sum / xs.length := by
  cases xs with
  | nil => simp [mean, Score.zero]
  | cons x xs => exact congrArg (· / ((x :: xs).length : ℚ)) (sum_eq (x :: xs))

lemma mean_mem_unit (h : ∀ x ∈ xs, x ∈ Icc 0 1) : mean xs ∈ Icc 0 1 := by
  rw [mean_eq]
  constructor
  · apply div_nonneg
    · exact List.sum_nonneg fun x hx => (h x hx).1
    · exact Nat.cast_nonneg xs.length
  · apply div_le_one_of_le₀
    · simpa using List.sum_le_card_nsmul xs 1 fun x hx => (h x hx).2
    · exact Nat.cast_nonneg xs.length

lemma mean_eq_one (ne : xs ≠ []) (h : ∀ x ∈ xs, x = 1) : mean xs = 1 := by
  have positive : (xs.length : ℚ) ≠ 0 := by simpa using ne
  rw [mean_eq, List.sum_eq_card_nsmul xs 1 h, nsmul_one, div_self positive]

end Score

namespace Match

section composite

variable {bound : List (Name × List (Match ℚ))} {weights : List (Name × ℚ)}
variable {entry : Name × List (Match ℚ)} {pattern name : Name} {box : Box} {weight : ℚ}

/-- Weights of declared components, none of them negative, and what is bound to some of the
components. Both are maps: no component is listed twice. -/
structure Weighs (bound : List (Name × List (Match ℚ))) (weights : List (Name × ℚ)) : Prop where
  boundOnce : (bound.map (·.1)).Nodup
  weighedOnce : (weights.map (·.1)).Nodup
  nonneg : ∀ entry ∈ weights, 0 ≤ entry.2
  declared : bound.map (·.1) ⊆ weights.map (·.1)

/-- There are components, and something is bound to each of them. -/
structure Fills (bound : List (Name × List (Match ℚ))) (weights : List (Name × ℚ)) : Prop where
  declares : weights ≠ []
  all : weights.map (·.1) ⊆ bound.map (·.1)
  several : ∀ entry ∈ bound, entry.2 ≠ []

lemma weightOf_of_mem (once : (weights.map (·.1)).Nodup) (mem : (name, weight) ∈ weights) :
    weightOf weights name = weight := by
  have found : (NameMap.mk weights).get? name = some weight := NameMap.get?_of_mem once mem
  rw [weightOf]
  exact congrArg (·.getD Score.zero) found

lemma map_weightOf (once : (weights.map (·.1)).Nodup) :
    (weights.map (·.1)).map (weightOf weights) = weights.map (·.2) := by
  rw [List.map_map]
  exact List.map_congr_left fun _ mem => weightOf_of_mem once mem

lemma Weighs.sum_nonneg (h : Weighs bound weights) : 0 ≤ (weights.map (·.2)).sum :=
  List.sum_nonneg (List.forall_mem_map.2 h.nonneg)

lemma Weighs.weightOf_nonneg (h : Weighs bound weights) (mem : entry ∈ bound) :
    0 ≤ weightOf weights entry.1 := by
  obtain ⟨listed, hl, eq⟩ := List.mem_map.1 (h.declared (List.mem_map_of_mem mem))
  rw [← eq, weightOf_of_mem h.weighedOnce hl]
  exact h.nonneg listed hl

/-- The components to which something is bound weigh at most as much as all components. -/
lemma Weighs.sum_le (h : Weighs bound weights) :
    ((bound.map (·.1)).map (weightOf weights)).sum ≤ (weights.map (·.2)).sum := by
  obtain ⟨names, perm, sub⟩ := List.subperm_of_subset h.boundOnce h.declared
  calc ((bound.map (·.1)).map (weightOf weights)).sum
      = (names.map (weightOf weights)).sum := (perm.map _).sum_eq.symm
    _ ≤ ((weights.map (·.1)).map (weightOf weights)).sum := by
        apply (sub.map _).sum_le_sum
        rw [map_weightOf h.weighedOnce]
        exact List.forall_mem_map.2 h.nonneg
    _ = (weights.map (·.2)).sum := by rw [map_weightOf h.weighedOnce]

/-- They weigh as much if they are all components. -/
lemma Weighs.sum_eq (h : Weighs bound weights) (full : Fills bound weights) :
    ((bound.map (·.1)).map (weightOf weights)).sum = (weights.map (·.2)).sum := by
  have perm : (bound.map (·.1)).Perm (weights.map (·.1)) :=
    (List.perm_ext_iff_of_nodup h.boundOnce h.weighedOnce).2 fun _ =>
      ⟨fun mem => h.declared mem, fun mem => full.all mem⟩
  rw [(perm.map _).sum_eq, map_weightOf h.weighedOnce]

/-- The precision is the part of the weights that is reached, unless all of them are zero. -/
lemma precision_composite (pattern : Name) (box : Box) (bound : List (Name × List (Match ℚ)))
    (weights : List (Name × ℚ)) : (composite pattern box bound weights).precision =
      if (weights.map (·.2)).sum ≤ 0 then if bound = [] then 0 else 1
      else (bound.map fun entry => weightOf weights entry.1 *
        Score.mean (entry.2.map precision)).sum / (weights.map (·.2)).sum := by
  rw [precision, compositePrecision, scores_eq_map, Score.sum_eq, Score.sum_eq]
  simp [Score.le, Score.zero, Score.one, Score.div, Score.mul]

lemma precision_array (pattern : Name) (box : Box) (items : List (Match ℚ)) :
    (array pattern box items).precision = Score.mean (items.map precision) := by
  rw [precision, precisions_eq_map]

lemma Weighs.precision_mem_unit (h : Weighs bound weights)
    (each : ∀ entry ∈ bound, Score.mean (entry.2.map precision) ∈ Icc 0 1) :
    (composite pattern box bound weights).precision ∈ Icc 0 1 := by
  rw [precision_composite]
  split
  case isTrue weightless => split <;> simp
  case isFalse weighty =>
    constructor
    · refine div_nonneg (List.sum_nonneg (List.forall_mem_map.2 fun entry mem => ?_)) h.sum_nonneg
      exact mul_nonneg (h.weightOf_nonneg mem) (each entry mem).1
    · refine div_le_one_of_le₀ (le_trans ?_ h.sum_le) h.sum_nonneg
      rw [List.map_map]
      refine List.sum_le_sum fun entry mem => ?_
      exact mul_le_of_le_one_right (h.weightOf_nonneg mem) (each entry mem).2

lemma Weighs.precision_eq_one (h : Weighs bound weights) (full : Fills bound weights)
    (each : ∀ entry ∈ bound, Score.mean (entry.2.map precision) = 1) :
    (composite pattern box bound weights).precision = 1 := by
  rw [precision_composite]
  split
  case isTrue weightless =>
    refine if_neg fun none => full.declares ?_
    simpa [none] using full.all
  case isFalse weighty =>
    have reached : (bound.map fun entry => weightOf weights entry.1 *
        Score.mean (entry.2.map precision)) = (bound.map (·.1)).map (weightOf weights) := by
      rw [List.map_map]
      refine List.map_congr_left fun entry mem => ?_
      rw [each entry mem, mul_one, Function.comp_apply]
    rw [reached, h.sum_eq full]
    exact div_self fun zero => weighty zero.le

end composite

section tree

variable {m : Match ℚ}

/-- The numbers that a match itself holds can rate it: a confidence between zero and one, or the
weights of components. -/
def IsRated : Match ℚ → Prop
  | cell _ _ _ _ confidence => confidence ∈ Icc 0 1
  | array _ _ _ => True
  | composite _ _ bound weights => Weighs bound weights

/-- A match itself lacks nothing: it is a cell of full confidence, an array with items, or a
composite match with something bound to each of its components. -/
def IsFull : Match ℚ → Prop
  | cell _ _ _ _ confidence => confidence = 1
  | array _ _ items => items ≠ []
  | composite _ _ bound weights => Fills bound weights

lemma IsRated.precision_mem_unit (h : m.IsRated)
    (parts : ∀ c ∈ m.children, c.precision ∈ Icc 0 1) : m.precision ∈ Icc 0 1 := by
  cases m with
  | cell => exact h
  | array pattern box items =>
    rw [precision_array]
    exact Score.mean_mem_unit (List.forall_mem_map.2 parts)
  | composite pattern box bound weights =>
    refine Weighs.precision_mem_unit h fun entry mem => ?_
    refine Score.mean_mem_unit (List.forall_mem_map.2 fun c hc => ?_)
    exact parts c (List.mem_flatMap.2 ⟨entry, mem, hc⟩)

lemma IsRated.precision_eq_one (h : m.IsRated) (full : m.IsFull)
    (parts : ∀ c ∈ m.children, c.precision = 1) : m.precision = 1 := by
  cases m with
  | cell => exact full
  | array pattern box items =>
    rw [precision_array]
    exact Score.mean_eq_one (mt List.map_eq_nil_iff.1 full) (List.forall_mem_map.2 parts)
  | composite pattern box bound weights =>
    refine Weighs.precision_eq_one h full fun entry mem => ?_
    apply Score.mean_eq_one
    · exact mt List.map_eq_nil_iff.1 (Fills.several full entry mem)
    · exact List.forall_mem_map.2 fun c hc => parts c (List.mem_flatMap.2 ⟨entry, mem, hc⟩)

lemma precision_mem_unit (rated : ∀ n, IsWithin n m → n.IsRated) : m.precision ∈ Icc 0 1 := by
  induction m using children_induction with
  | step m ih =>
    obtain ⟨self, parts⟩ := forall_isWithin.1 rated
    exact self.precision_mem_unit fun c mem => ih c mem (parts c mem)

lemma precision_eq_one (rated : ∀ n, IsWithin n m → n.IsRated)
    (full : ∀ n, IsWithin n m → n.IsFull) : m.precision = 1 := by
  induction m using children_induction with
  | step m ih =>
    obtain ⟨self, parts⟩ := forall_isWithin.1 rated
    obtain ⟨whole, wholes⟩ := forall_isWithin.1 full
    exact self.precision_eq_one whole fun c mem => ih c mem (parts c mem) (wholes c mem)

/-- The precision of a match lies between zero and one if its confidences do and no weight is
negative, however arrays and components are nested. It is one if all cells are of full confidence,
no array is empty, and something is bound to every component. -/
theorem precision_normalized (m : Match ℚ) (rated : ∀ n, IsWithin n m → n.IsRated) :
    (0 ≤ m.precision ∧ m.precision ≤ 1) ∧
      ((∀ n, IsWithin n m → n.IsFull) → m.precision = 1) :=
  ⟨precision_mem_unit rated, precision_eq_one rated⟩

/-- An invoice of a number in two cells and a list of two lines, perhaps signed. -/
def invoice (confidence : ℚ) (signature : List (Name × List (Match ℚ))) : Match ℚ :=
  let word (confidence : ℚ) : Match ℚ := cell "word" default "x" "word" confidence
  composite "invoice" default
    ([("lines", [array "lines" default [word 1, word confidence]]),
      ("number", [word confidence, word 1])] ++ signature)
    [("lines", 2), ("number", 1), ("signature", 1)]

/-- Without a signature and with halves for some words nine of sixteen parts are reached. -/
theorem precision_normalized_invoice :
    let unsigned := invoice (1 / 2) []
    let signed := invoice 1 [("signature", [cell "sign" default "x" "word" 1])]
    unsigned.precision = 9 / 16 ∧ (0 ≤ unsigned.precision ∧ unsigned.precision ≤ 1) ∧
      signed.precision = 1 := by
  intro unsigned signed
  have rated : ∀ n, IsWithin n unsigned → n.IsRated := by
    refine forall_isWithin_composite.2 ⟨⟨by decide, by decide, by decide, by decide⟩, ?_⟩
    norm_num [IsRated]
  have rated' : ∀ n, IsWithin n signed → n.IsRated := by
    refine forall_isWithin_composite.2 ⟨⟨by decide, by decide, by decide, by decide⟩, ?_⟩
    simp [IsRated]
  have full : ∀ n, IsWithin n signed → n.IsFull := by
    refine forall_isWithin_composite.2 ⟨⟨by simp, by decide, by simp⟩, ?_⟩
    simp [IsFull]
  exact ⟨by decide +kernel, (precision_normalized unsigned rated).1,
    (precision_normalized signed rated').2 full⟩

end tree

end Match

end SpatialGrammar
