import Mathlib.Data.List.Basic
import Mathlib.Data.List.Pairwise
import Mathlib.Tactic.Lemma
import SpatialGrammar.Order.Distinct

/-!
# Sorted lists without repetition ascend

Main statements: `Distinct.pairwise_ofList`, the elements that are collected in an order ascend in
it, if the order is transitive and tells different elements apart, and
`Distinct.flatMap_filter_perm`, sorting by such keys keeps every element once.
-/

namespace SpatialGrammar.Distinct

variable {α : Type} [DecidableEq α] {precedes : α → α → Bool} {x : α} {ys : List α}

lemma pairwise_insert (trans : ∀ a b c, precedes a b → precedes b c → precedes a c)
    (total : ∀ a b, a ≠ b → precedes a b ∨ precedes b a)
    (h : ys.Pairwise fun a b => precedes a b = true) :
    (insert precedes x ys).Pairwise fun a b => precedes a b = true := by
  induction ys with
  | nil => exact List.pairwise_singleton _ x
  | cons y ys ih =>
    obtain ⟨first, rest⟩ := List.pairwise_cons.1 h
    rw [insert]
    split
    next => exact h
    next ne =>
      split
      next before =>
        refine .cons (List.forall_mem_cons.2 ⟨before, fun z hz => ?_⟩) h
        exact trans x y z before (first z hz)
      next after =>
        refine .cons (fun z hz => ?_) (ih rest)
        cases mem_insert.1 hz with
        | inl same => exact same ▸ (total x y ne).resolve_left after
        | inr mem => exact first z mem

/-- Elements that are collected in an order ascend in it. -/
theorem pairwise_ofList (precedes : α → α → Bool)
    (trans : ∀ a b c, precedes a b → precedes b c → precedes a c)
    (total : ∀ a b, a ≠ b → precedes a b ∨ precedes b a) (xs : List α) :
    (ofList precedes xs).Pairwise fun a b => precedes a b = true := by
  induction xs with
  | nil => exact .nil
  | cons x xs ih => exact pairwise_insert trans total ih

/-- Elements are kept when they are sorted by a key. -/
theorem flatMap_filter_perm {β κ : Type} [BEq κ] [LawfulBEq κ] {keys : List κ}
    (distinct : keys.Nodup) (key : β → κ) (xs : List β) (all : ∀ x ∈ xs, key x ∈ keys) :
    (keys.flatMap fun k => xs.filter fun x => key x == k).Perm xs := by
  induction keys generalizing xs with
  | nil =>
    rw [List.eq_nil_iff_forall_not_mem.2 fun x hx => List.not_mem_nil (all x hx)]
    exact .refl []
  | cons k keys ih =>
    obtain ⟨fresh, distinct⟩ := List.nodup_cons.1 distinct
    have rest := ih distinct (xs.filter fun x => !(key x == k)) fun x hx => by
      obtain ⟨mem, ne⟩ := List.mem_filter.1 hx
      exact (List.mem_cons.1 (all x mem)).resolve_left (by simpa using ne)
    have same : ∀ k' ∈ keys, (xs.filter fun x => !(key x == k)).filter (fun x => key x == k') =
        xs.filter fun x => key x == k' := by
      intro k' hk'
      rw [List.filter_filter]
      refine List.filter_congr fun x _ => ?_
      by_cases eq : key x = k'
      · have ne : key x ≠ k := fun h => fresh (h ▸ eq ▸ hk')
        simp [eq, eq ▸ ne]
      · simp [eq]
    rw [List.flatMap_congr same] at rest
    rw [List.flatMap_cons]
    exact (rest.append_left _).trans (List.filter_append_perm _ xs)

end SpatialGrammar.Distinct
