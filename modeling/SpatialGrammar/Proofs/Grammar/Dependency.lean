import Mathlib.Data.Finite.Prod
import Mathlib.Data.List.Perm.Subperm
import Mathlib.Data.List.Sort
import Mathlib.Data.String.Basic
import Mathlib.Logic.Relation
import Mathlib.Order.Bounds.Basic
import Mathlib.Order.WellFounded
import SpatialGrammar.Grammar.Dependency
import SpatialGrammar.Proofs.Order.Distinct

/-!
# What closures and layers of names are

The relation of names to what they lead to, and the two ways to follow it. Main statements:
`mem_closure`, a closure with enough budget holds what can be reached, `layers_isOk_iff`, names can
be sorted into layers unless some of them run in a circle, and `isGreatest_of_layers`, the layer of
a name is the length of the longest chain that begins at it.
-/

namespace SpatialGrammar.Dependency

open Relation (ReflTransGen TransGen)

variable {next : Name → List Name} {names found done pending stuck : List Name}
variable {layer : List Name} {ls : List (List Name)} {x y name : Name}
variable {budget count n : ℕ}

/-- One name leads to another one. -/
def Leads (next : Name → List Name) (x y : Name) : Prop := y ∈ next x

section closure

lemma mem_sorted : y ∈ sorted names ↔ y ∈ names := Distinct.mem_ofList

lemma sortedLT_sorted (names : List Name) : (sorted names).SortedLT := by
  refine List.sortedLT_iff_pairwise.2 ?_
  have ascending := Distinct.pairwise_ofList (fun a b : Name => decide (a < b))
    (fun a b c h h' => by simpa using (of_decide_eq_true h).trans (of_decide_eq_true h'))
    (fun a b ne => by simpa using lt_or_gt_of_ne ne) names
  exact ascending.imp fun h => of_decide_eq_true h

/-- Nothing new is reached from names that lead only to each other. -/
lemma reached_iff_mem (closed : ∀ x ∈ found, next x ⊆ found) :
    (∃ x ∈ found, ReflTransGen (Leads next) x y) ↔ y ∈ found := by
  constructor
  · rintro ⟨x, hx, path⟩
    induction path with
    | refl => exact hx
    | tail _ step ih => exact closed _ ih step
  · exact fun hy => ⟨y, hy, .refl⟩

/-- Adding what names lead to does not change what is reached. -/
lemma reached_sorted_iff :
    (∃ x ∈ sorted (found ++ found.flatMap next), ReflTransGen (Leads next) x y) ↔
      ∃ x ∈ found, ReflTransGen (Leads next) x y := by
  simp only [mem_sorted, List.mem_append, List.mem_flatMap]
  constructor
  · rintro ⟨x, hx | ⟨z, hz, step⟩, path⟩
    · exact ⟨x, hx, path⟩
    · exact ⟨z, hz, .head step path⟩
  · rintro ⟨x, hx, path⟩
    exact ⟨x, .inl hx, path⟩

/-- A closure holds what can be reached, if its budget is as large as the number of names that may
still be added. -/
theorem mem_closure (all : List Name) (ascending : found.SortedLT) (inside : found ⊆ all)
    (closed : ∀ x ∈ all, next x ⊆ all) (enough : all.length ≤ budget + found.length) :
    y ∈ closure next budget found ↔ ∃ x ∈ found, ReflTransGen (Leads next) x y := by
  induction budget generalizing found with
  | zero =>
    -- all names have been found, so that nothing can be added
    have whole := (List.subperm_of_subset ascending.nodup inside).perm_of_length_le (by omega)
    rw [closure, reached_iff_mem fun x hx z hz => whole.mem_iff.2 (closed x (inside hx) hz)]
  | succ budget ih =>
    rw [closure]
    split
    next same =>
      rw [reached_iff_mem fun x hx z hz => ?_]
      rw [← same, mem_sorted]
      exact List.mem_append_right _ (List.mem_flatMap.2 ⟨x, hx, hz⟩)
    next more =>
      have sub : found ⊆ sorted (found ++ found.flatMap next) := fun x hx =>
        mem_sorted.2 (List.mem_append_left _ hx)
      have grown : found.length < (sorted (found ++ found.flatMap next)).length := by
        have part := List.subperm_of_subset ascending.nodup sub
        refine lt_of_le_of_ne part.length_le fun same => more ?_
        have perm := part.perm_of_length_le same.ge
        exact (sortedLT_sorted _).eq_of_mem_iff ascending fun z => perm.mem_iff.symm
      rw [ih (sortedLT_sorted _) _ (by omega), reached_sorted_iff]
      intro x hx
      cases List.mem_append.1 (mem_sorted.1 hx) with
      | inl mem => exact inside mem
      | inr mem =>
        obtain ⟨z, hz, step⟩ := List.mem_flatMap.1 mem
        exact closed z (inside hz) step

lemma sortedLT_closure (ascending : found.SortedLT) : (closure next budget found).SortedLT := by
  induction budget generalizing found with
  | zero => exact ascending
  | succ budget ih =>
    rw [closure]
    split
    next => exact ascending
    next => exact ih (sortedLT_sorted _)

end closure

section chains

variable {related : Name → Name → Prop}

/-- How long the chains are that begin at a name, each member of which is related to the next. -/
def chainLengths (related : Name → Name → Prop) (name : Name) : Set ℕ :=
  {n | ∃ names : List Name, (name :: names).IsChain related ∧ names.length = n}

lemma zero_mem_chainLengths : 0 ∈ chainLengths related x := ⟨[], .singleton x, rfl⟩

lemma succ_mem_chainLengths :
    n + 1 ∈ chainLengths related x ↔ ∃ y, related x y ∧ n ∈ chainLengths related y := by
  constructor
  · rintro ⟨names, chain, length⟩
    cases names with
    | nil => cases length
    | cons y rest =>
      obtain ⟨step, chain⟩ := List.isChain_cons_cons.1 chain
      exact ⟨y, step, rest, chain, Nat.succ.inj length⟩
  · rintro ⟨y, step, names, chain, rfl⟩
    exact ⟨y :: names, List.isChain_cons_cons.2 ⟨step, chain⟩, rfl⟩

lemma exists_chain_through (path : TransGen related x y) (long : n ∈ chainLengths related y) :
    ∃ m, n < m ∧ m ∈ chainLengths related x := by
  induction path using TransGen.head_induction_on with
  | single step => exact ⟨n + 1, Nat.lt_succ_self n, succ_mem_chainLengths.2 ⟨_, step, long⟩⟩
  | head step _ ih =>
    obtain ⟨m, lt, mem⟩ := ih
    exact ⟨m + 1, by omega, succ_mem_chainLengths.2 ⟨_, step, mem⟩⟩

/-- There is no longest chain where names run in a circle. -/
lemma not_isGreatest_of_cycle (cycle : TransGen related x x) :
    ¬ IsGreatest (chainLengths related x) n := by
  rintro ⟨mem, bound⟩
  obtain ⟨m, lt, longer⟩ := exists_chain_through cycle mem
  exact absurd (bound longer) (Nat.not_le.2 lt)

/-- The longest chain of a name is longer than those of what the name is related to. -/
lemma lt_of_isGreatest {m : ℕ} (hx : IsGreatest (chainLengths related x) n)
    (hy : IsGreatest (chainLengths related y) m) (step : related x y) : m < n :=
  hx.2 (succ_mem_chainLengths.2 ⟨y, step, hy.1⟩)

/-- Finitely many names, each of which is related to another one of them, run in a circle. -/
lemma exists_cycle (some_name : stuck ≠ []) (onward : ∀ x ∈ stuck, ∃ y ∈ stuck, related x y) :
    ∃ x ∈ stuck, TransGen related x x := by
  by_contra none
  push Not at none
  -- otherwise the paths between these names are a well-founded relation
  let before (x y : {x // x ∈ stuck}) : Prop := TransGen related y.1 x.1
  have : IsTrans _ before := ⟨fun _ _ _ h h' => h'.trans h⟩
  have : Std.Irrefl before := ⟨fun x h => none x.1 x.2 h⟩
  obtain ⟨first, hfirst⟩ := List.exists_mem_of_ne_nil stuck some_name
  obtain ⟨⟨x, hx⟩, -, last⟩ :=
    (Finite.wellFounded_of_trans_of_irrefl before).has_min Set.univ ⟨⟨first, hfirst⟩, trivial⟩
  obtain ⟨y, hy, step⟩ := onward x hx
  exact last ⟨y, hy⟩ trivial (.single step)

end chains

section layers

/-- Names have been done in some layers, and the others are pending: chains from what is done are
shorter than the number of layers, and one from each pending name is at least as long. -/
structure Layered (next : Name → List Name) (done pending : List Name) (count : ℕ) : Prop where
  closed : ∀ x ∈ pending, next x ⊆ done ++ pending
  short : ∀ x ∈ done, ∀ n ∈ chainLengths (Leads next) x, n < count
  long : ∀ x ∈ pending, count ∈ chainLengths (Leads next) x

lemma layered_nil (closed : ∀ x ∈ pending, next x ⊆ pending) : Layered next [] pending 0 :=
  ⟨closed, nofun, fun _ _ => zero_mem_chainLengths⟩

lemma mem_ready : x ∈ ready next done pending ↔ x ∈ pending ∧ ∀ y ∈ next x, y ∈ done := by
  simp [ready, isReady]

lemma mem_blocked : x ∈ blocked next done pending ↔ x ∈ pending ∧ ∃ y ∈ next x, y ∉ done := by
  simp [blocked, isReady]

/-- The longest chain from a name that is ready has as many steps as there are layers. -/
lemma Layered.isGreatest (h : Layered next done pending count)
    (hx : x ∈ ready next done pending) : IsGreatest (chainLengths (Leads next) x) count := by
  obtain ⟨mem, free⟩ := mem_ready.1 hx
  refine ⟨h.long x mem, fun n hn => ?_⟩
  cases n with
  | zero => exact Nat.zero_le count
  | succ n =>
    obtain ⟨y, step, hn⟩ := succ_mem_chainLengths.1 hn
    exact h.short y (free y step) n hn

/-- One more layer. -/
lemma Layered.step (h : Layered next done pending count) :
    Layered next (done ++ ready next done pending) (blocked next done pending) (count + 1) := by
  refine ⟨fun x hx y hy => ?_, fun x hx n hn => ?_, fun x hx => ?_⟩
  · simp only [List.mem_append, mem_ready, mem_blocked]
    cases List.mem_append.1 (h.closed x (mem_blocked.1 hx).1 hy) with
    | inl finished => exact .inl (.inl finished)
    | inr waiting =>
      by_cases free : ∀ z ∈ next y, z ∈ done
      · exact .inl (.inr ⟨waiting, free⟩)
      · exact .inr ⟨waiting, by simpa using free⟩
  · cases List.mem_append.1 hx with
    | inl mem => exact (h.short x mem n hn).trans (Nat.lt_succ_self count)
    | inr mem => exact Nat.lt_succ_of_le ((h.isGreatest mem).2 hn)
  · obtain ⟨mem, y, hy, new⟩ := mem_blocked.1 hx
    have waiting := (List.mem_append.1 (h.closed x mem hy)).resolve_left new
    exact succ_mem_chainLengths.2 ⟨y, hy, h.long y waiting⟩

/-- The layers hold the pending names, each once. -/
theorem flatten_layers_perm (h : layers next done pending = .ok ls) : ls.flatten.Perm pending := by
  fun_induction layers next done pending generalizing ls with
  | case1 done pending none =>
    rw [List.isEmpty_iff.1 none, ← Except.ok.inj h, List.flatten_nil]
  | case2 => cases h
  | case3 done pending _ layer _ _ rest eq =>
    rename_i ih
    rw [← Except.ok.inj h, List.flatten_cons]
    exact ((ih eq).append_left layer).trans (List.filter_append_perm _ pending)
  | case4 => cases h

/-- Each layer holds names with chains of one greatest length. -/
theorem isGreatest_of_layers (h : layers next done pending = .ok ls)
    (inv : Layered next done pending count) {i : ℕ} (at_i : ls[i]? = some layer)
    (hx : x ∈ layer) : IsGreatest (chainLengths (Leads next) x) (count + i) := by
  fun_induction layers next done pending generalizing ls count i with
  | case1 =>
    rw [← Except.ok.inj h] at at_i
    cases at_i
  | case2 => cases h
  | case3 done pending _ first _ _ rest eq =>
    rename_i ih
    rw [← Except.ok.inj h] at at_i
    cases i with
    | zero =>
      rw [← Option.some.inj at_i] at hx
      exact inv.isGreatest hx
    | succ i =>
      have later := ih eq inv.step at_i
      rwa [Nat.add_assoc, Nat.add_comm 1 i] at later
  | case4 => cases h

/-- Where sorting into layers stops, every name leads to another one that is left. -/
lemma layers_eq_error (h : layers next done pending = .error stuck)
    (inv : Layered next done pending count) :
    stuck ≠ [] ∧ stuck ⊆ pending ∧ ∀ x ∈ stuck, ∃ y ∈ stuck, Leads next x y := by
  fun_induction layers next done pending generalizing count with
  | case1 => cases h
  | case2 done pending some_name layer =>
    rename_i none
    rw [← Except.error.inj h]
    refine ⟨fun nil => some_name (List.isEmpty_iff.2 nil), List.Subset.refl _, fun x hx => ?_⟩
    have waits : x ∉ ready next done pending := fun mem => by
      rw [show ready next done pending = [] from none] at mem
      cases mem
    have ⟨y, hy, new⟩ : ∃ y ∈ next x, y ∉ done := by
      simpa [mem_ready, hx] using waits
    exact ⟨y, (List.mem_append.1 (inv.closed x hx hy)).resolve_left new, hy⟩
  | case3 => cases h
  | case4 done pending _ layer _ _ rest eq =>
    rename_i ih
    obtain ⟨some_name, part, onward⟩ := ih (Except.error.inj h ▸ eq) inv.step
    exact ⟨some_name, List.Subset.trans part (List.filter_subset_self _), onward⟩

/-- Names that lead only to each other can be sorted into layers unless some of them run in a
circle. -/
theorem layers_isOk_iff (closed : ∀ x ∈ pending, next x ⊆ pending) :
    (∃ ls, layers next [] pending = .ok ls) ↔ ∀ x ∈ pending, ¬ TransGen (Leads next) x x := by
  have inv := layered_nil closed
  constructor
  · rintro ⟨ls, h⟩ x hx cycle
    obtain ⟨layer, hl, mem⟩ := List.mem_flatten.1 ((flatten_layers_perm h).mem_iff.2 hx)
    obtain ⟨i, at_i⟩ := List.getElem?_of_mem hl
    exact not_isGreatest_of_cycle cycle (isGreatest_of_layers h inv at_i mem)
  · intro acyclic
    cases h : layers next [] pending with
    | ok ls => exact ⟨ls, rfl⟩
    | error stuck =>
      obtain ⟨some_name, part, onward⟩ := layers_eq_error h inv
      obtain ⟨x, hx, cycle⟩ := exists_cycle some_name onward
      exact absurd cycle (acyclic x (part hx))

end layers

end SpatialGrammar.Dependency
