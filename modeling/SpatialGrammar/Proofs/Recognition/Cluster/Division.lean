import Mathlib
import SpatialGrammar.Proofs.Recognition.Arrays
import SpatialGrammar.Proofs.Recognition.Cluster.Connection

/-!
# Division into connected pieces

Splitting items goes in rounds, each of which takes one piece out of what is left. The relation
`Splits` holds if the rounds come to an end, and what holds of all pieces is shown along it. They
come to an end since a round never aims at a piece without items. Main statements: `splits_pieces`
and `countPieces_divides`.
-/

namespace SpatialGrammar.Recognition

namespace Cluster

variable {ι : Type} {related : ι → ι → Bool} {start : ι × Nat} {rest more items : Numbered ι}
variable {target : Nat → Nat} {targets : List Nat} {found : List (Numbered ι)}
variable {round total most common k : Nat}

/-- The rounds of splitting items, from a given one on: while there are items, a piece grows from
the first of them, to the target size of the round. A round with the target zero takes nothing. -/
inductive Splits (related : ι → ι → Bool) (target : Nat → Nat) :
    Nat → Numbered ι → List (Numbered ι) → Prop where
  | done (round : Nat) : Splits related target round [] []
  | grown {round : Nat} {start : ι × Nat} {rest : Numbered ι} {later : List (Numbered ι)} :
    Splits related target (round + 1)
      (without (start :: rest) (grow related (target round) [start] rest)) later →
    Splits related target round (start :: rest)
      (grow related (target round) [start] rest :: later)

section rounds

lemma length_grow_le (related : ι → ι → Bool) (room : Nat) (queue pool : Numbered ι) :
    (grow related room queue pool).length ≤ room := by
  induction room generalizing queue pool with
  | zero => exact Nat.le_refl 0
  | succ room ih =>
    cases queue with
    | nil => exact Nat.zero_le _
    | cons p queue => exact Nat.succ_le_succ (ih _ _)

/-- The pieces hold each item once. -/
lemma Splits.partition (h : Splits related target round items found) (told : ToldApart items) :
    found.flatten.Perm items := by
  induction h with
  | done => exact .refl []
  | @grown round start rest later _ ih =>
    have part : (grow related (target round) [start] rest).Subperm (start :: rest) :=
      grow_subperm related _ _ _
    have left := ih (told.subperm (without_sublist _ _).subperm)
    rw [List.flatten_cons]
    exact (left.append_left _).trans (append_without_perm told part)

/-- A piece is connected, whether it is cut off at its target size or not. -/
lemma Splits.connected (h : Splits related target round items found)
    (symm : ∀ i j, related i j = related j i) : ∀ piece ∈ found, IsConnected related piece := by
  induction h with
  | done => exact fun _ mem => nomatch mem
  | grown _ ih => exact List.forall_mem_cons.2 ⟨grow_connected symm _ _ _, ih⟩

lemma Splits.length_le (h : Splits related target round items found)
    (bounded : ∀ k, target k ≤ most) : ∀ piece ∈ found, piece.length ≤ most := by
  induction h with
  | done => exact fun _ mem => nomatch mem
  | grown _ ih =>
    exact List.forall_mem_cons.2 ⟨(length_grow_le _ _ _ _).trans (bounded _), ih⟩

lemma Splits.length_pos (h : Splits related target round items found)
    (positive : ∀ k, 0 < target k) : ∀ piece ∈ found, 1 ≤ piece.length := by
  induction h with
  | done => exact fun _ mem => nomatch mem
  | @grown round start rest later _ ih =>
    refine List.forall_mem_cons.2 ⟨?_, ih⟩
    obtain ⟨room, eq⟩ := Nat.exists_eq_add_one.2 (positive round)
    rw [eq, grow]
    exact Nat.succ_pos _

/-- Pieces of a greatest size are at least as many as are needed. -/
lemma Splits.ceil_le (h : Splits related target round items found) (told : ToldApart items)
    (bounded : ∀ k, target k ≤ most) : ⌈(items.length : ℚ) / most⌉₊ ≤ found.length := by
  have sizes : items.length ≤ found.length * most := by
    rw [← (h.partition told).length_eq, List.length_flatten, ← List.length_map (·.length)]
    refine List.sum_le_card_nsmul _ most fun size mem => ?_
    obtain ⟨piece, hp, rfl⟩ := List.mem_map.1 mem
    exact h.length_le bounded piece hp
  exact Nat.ceil_le.2 (div_le_of_le_mul₀ (Nat.cast_nonneg _) (Nat.cast_nonneg _) (mod_cast sizes))

lemma without_cons (told : ToldApart (start :: rest)) :
    without (start :: rest) (start :: more) = without rest more := by
  have fresh : ∀ q ∈ rest, (start.2 == q.2) = false := fun q hq => by
    refine beq_eq_false_iff_ne.2 fun same => (List.nodup_cons.1 told).1 ?_
    exact List.mem_map.2 ⟨q, hq, same.symm⟩
  rw [without, List.filter_cons_of_neg (by simp)]
  refine List.filter_congr fun q hq => ?_
  rw [List.any_cons, fresh q hq, Bool.false_or]

/-- If no round aims at a piece without items, then the rounds come to an end. -/
theorem splits_pieces (told : ToldApart items) (positive : ∀ k, 0 < target k)
    (aims : ∀ k, target (round + k) = (targets[k]?).getD common) :
    Splits related target round items (pieces related targets common items) := by
  fun_induction pieces related targets common items generalizing round with
  | case1 => exact .done round
  | case2 targets start rest more =>
    rename_i ih
    have aim : target round = targets.headD common - 1 + 1 := by
      have first := aims 0
      have room := positive round
      rw [Nat.add_zero, ← List.head?_eq_getElem?, ← List.headD_eq_head?_getD] at first
      omega
    have piece : grow related (target round) [start] rest = start :: more := by
      rw [aim, grow, List.nil_append]
    have left := told.subperm ((without_sublist rest more).cons start).subperm
    have later : Splits related target (round + 1) _ _ := ih left fun k => by
      rw [Nat.add_assoc, Nat.add_comm 1, aims, List.getElem?_tail]
    rw [← piece]
    refine .grown ?_
    rw [piece, without_cons told]
    exact later

end rounds

section targets

/-- The size to which a piece grows, by the number of pieces before it: nearly the same for as many
pieces as are needed, and the greatest one for all others. -/
def targetSize (total most k : Nat) : Nat :=
  let parts := (total + most - 1) / most
  if k < parts then total / parts + if k < total % parts then 1 else 0 else most

lemma targetSize_eq (total most k : Nat) : targetSize total most k =
    ((balancedSizes total ((total + most - 1) / most))[k]?).getD most := by
  rw [targetSize, balancedSizes, List.getElem?_map]
  split
  next few => rw [List.getElem?_range few, Option.map_some, Option.getD_some]
  next many =>
    rw [List.getElem?_eq_none (by simpa using many), Option.map_none, Option.getD_none]

lemma targetSize_pos (pos : 1 ≤ most) (total k : Nat) : 0 < targetSize total most k := by
  unfold targetSize
  dsimp only
  split
  next few =>
    have le : (total + most - 1) / most ≤ total := by
      have := Nat.le_mul_of_pos_left total pos
      refine Nat.le_of_lt_succ (Nat.div_lt_of_lt_mul ?_)
      rw [Nat.mul_succ]
      omega
    exact Nat.add_pos_left (Nat.div_pos le (Nat.zero_lt_of_lt few)) _
  next => exact pos

lemma targetSize_le (pos : 1 ≤ most) (total k : Nat) : targetSize total most k ≤ most := by
  unfold targetSize
  dsimp only
  generalize eq : (total + most - 1) / most = parts
  have enough : total ≤ most * parts := by
    have := Nat.lt_mul_div_succ (total + most - 1) pos
    rw [eq, Nat.mul_succ] at this
    omega
  split
  next few =>
    split
    next extra =>
      have lt : parts * (total / parts) < parts * most := by
        have := Nat.div_add_mod total parts
        rw [Nat.mul_comm parts most]
        omega
      exact Nat.lt_of_mul_lt_mul_left lt
    next => exact Nat.div_le_of_le_mul (Nat.mul_comm most parts ▸ enough)
  next => exact Nat.le_refl most

end targets

end Cluster

open Cluster

variable {α : Type} {shape : ArrayShape} {most : Nat}

/-- Breaking a cluster with a greatest number of items comes to an end. Before those that do not fit
are left out, the pieces hold each item once, and they are at least as many as are needed. Each of
them has at least one item and not more than the greatest number, and is connected. -/
theorem countPieces_divides (stop : shape.itemCount.stop = some (most : Int)) (pos : 1 ≤ most)
    (items : Items α) :
    let neighbours (m n : Match α) := areNeighbours shape.gap m.box n.box
    let order := items.zipIdx.mergeSort fun p q => rowMajor p.1.box q.1.box
    ∃ pieces : List (Numbered (Match α)),
      Splits neighbours (targetSize items.length most) 0 order pieces ∧
      countPieces shape items =
        (pieces.map fun piece => piece.map (·.1)).filter (fun piece => fit shape none piece = .fits) ∧
      pieces.flatten.Perm items.zipIdx ∧
      (∀ piece ∈ pieces, 1 ≤ piece.length ∧ piece.length ≤ most ∧ IsConnected neighbours piece) ∧
      ⌈(items.length : ℚ) / most⌉₊ ≤ pieces.length := by
  intro neighbours order
  have sorted : order.Perm items.zipIdx := List.mergeSort_perm _ _
  have told : ToldApart order := (toldApart_zipIdx items).subperm sorted.subperm
  have positive := targetSize_pos pos items.length
  have bounded := targetSize_le pos items.length
  have splits : Splits neighbours (targetSize items.length most) 0 order _ :=
    splits_pieces told positive fun k => by rw [Nat.zero_add, targetSize_eq]
  have symm : ∀ m n, neighbours m n = neighbours n m := fun m n => areNeighbours_comm _ _ _
  refine ⟨_, splits, ?_, (splits.partition told).trans sorted, fun piece mem => ⟨?_, ?_, ?_⟩, ?_⟩
  · rw [countPieces, stop, Option.map_some, Int.toNat_natCast, Option.filter_some_pos (by simpa)]
    rfl
  · exact splits.length_pos positive piece mem
  · exact splits.length_le bounded piece mem
  · exact splits.connected symm piece mem
  · have := splits.ceil_le told bounded
    rwa [sorted.length_eq, List.length_zipIdx] at this

/-- Areas of one or two digits. -/
def digitPairs : ArrayShape where
  item := "digit"
  layout := .fill
  itemCount := Interval.atMost 2
  allowBreakdown := true

/-- Five digits in the shape of a cross. -/
def crossOfDigits : Items ℚ :=
  [(1, 0), (0, 1), (1, 1), (2, 1), (1, 2)].map fun (x, y) =>
    .cell "digit" (Box.unit x y) "1" "d" 1

/-- A cross of five digits needs three pairs. It is broken into four pieces, since nothing connects
its arms once the centre is taken. -/
theorem countPieces_divides_cross :
    digitPairs.itemCount.stop = some ((2 : Nat) : Int) ∧ 1 ≤ 2 ∧
      (countPieces digitPairs crossOfDigits).map List.length = [2, 1, 1, 1] ∧
      ∃ pieces : List (Numbered (Match ℚ)), pieces.flatten.Perm crossOfDigits.zipIdx ∧
        (∀ piece ∈ pieces, 1 ≤ piece.length ∧ piece.length ≤ 2) ∧ 3 ≤ pieces.length := by
  have stop : digitPairs.itemCount.stop = some ((2 : Nat) : Int) := rfl
  obtain ⟨pieces, -, -, whole, sizes, enough⟩ :=
    countPieces_divides stop (by decide : 1 ≤ 2) crossOfDigits
  have needed : ⌈(crossOfDigits.length : ℚ) / (2 : Nat)⌉₊ = 3 := by
    norm_num [crossOfDigits, Nat.ceil_eq_iff]
  refine ⟨rfl, by decide, by cbv, pieces, whole, fun piece mem => ?_, needed ▸ enough⟩
  exact ⟨(sizes piece mem).1, (sizes piece mem).2.1⟩

end SpatialGrammar.Recognition
