import Mathlib.Data.List.Basic
import Mathlib.Tactic.Lemma

/-!
# Lists that a test cuts in two

In an ordered list, the elements that pass a test may all come first. Main statements:
`takeWhile_eq_filter` and `dropWhile_eq_filter`, cutting such a list finds what filtering finds.
-/

namespace SpatialGrammar.Cut

variable {β : Type} {test : β → Bool} {xs : List β}

/-- If the elements that pass a test come first, they are what is in front of the cut. -/
lemma takeWhile_eq_filter (h : xs.Pairwise fun a b => test b → test a) :
    xs.takeWhile test = xs.filter test := by
  induction xs with
  | nil => rfl
  | cons a xs ih =>
    obtain ⟨first, rest⟩ := List.pairwise_cons.1 h
    cases ha : test a with
    | true => rw [List.takeWhile_cons_of_pos ha, List.filter_cons_of_pos ha, ih rest]
    | false =>
      have fails : ¬ test a := Bool.eq_false_iff.1 ha
      rw [List.takeWhile_cons_of_neg fails, List.filter_cons_of_neg fails, eq_comm,
        List.filter_eq_nil_iff]
      exact fun b hb hn => fails (first b hb hn)

lemma dropWhile_eq_filter (h : xs.Pairwise fun a b => test b → test a) :
    xs.dropWhile test = xs.filter fun a => !test a := by
  induction xs with
  | nil => rfl
  | cons a xs ih =>
    obtain ⟨first, rest⟩ := List.pairwise_cons.1 h
    cases ha : test a with
    | true => rw [List.dropWhile_cons_of_pos ha, List.filter_cons_of_neg (by simp [ha]), ih rest]
    | false =>
      have fails : ¬ test a := Bool.eq_false_iff.1 ha
      rw [List.dropWhile_cons_of_neg fails, eq_comm, List.filter_eq_self, List.forall_mem_cons]
      exact ⟨by simp [ha], fun b hb => by simpa using fun hn => fails (first b hb hn)⟩

/-- Of a list in which the elements that pass a test come first, these are cut off. -/
lemma filter_not_of_before (h : xs.Pairwise fun a b => test b → test a) :
    xs.filter (fun a => !test a) <:+ xs :=
  dropWhile_eq_filter h ▸ List.dropWhile_suffix test

lemma filter_not_of_behind (h : xs.Pairwise fun a b => test a → test b) :
    xs.filter (fun a => !test a) <+: xs := by
  have others : xs.Pairwise fun a b => (!test b) = true → (!test a) = true := by
    refine h.imp fun {a b} behind => ?_
    simp only [Bool.not_eq_true']
    exact fun hb => Bool.eq_false_iff.2 fun ha => Bool.eq_false_iff.1 hb (behind ha)
  exact takeWhile_eq_filter others ▸ List.takeWhile_prefix _

end SpatialGrammar.Cut
