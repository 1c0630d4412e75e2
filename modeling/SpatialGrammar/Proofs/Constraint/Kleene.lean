import Mathlib.Data.Fintype.Option
import Mathlib.Data.List.Basic
import SpatialGrammar.Constraint.Kleene

/-!
# The laws of three-valued logic

A connective knows its value if it knows those of its members, and it keeps a value once it has
one: more knowledge about the members changes nothing. Main statements: `all_mono`, `any_mono`,
`xor_mono` and `not_mono`, and `all_cons` and `any_cons`, which take a connective apart.
-/

namespace SpatialGrammar.Kleene

variable {values : List (Option Bool)} {a a' b b' : Option Bool} {x : Bool}

lemma all_eq_some_false : all values = some false ↔ some false ∈ values := by
  unfold all
  split
  · simp_all
  · split <;> simp_all

lemma all_eq_some_true : all values = some true ↔ ∀ a ∈ values, a = some true := by
  unfold all
  constructor
  · intro h a mem
    split at h
    · simp at h
    · split at h
      · simp at h
      · rcases a with _ | _ | _
        · contradiction
        · contradiction
        · rfl
  · intro h
    rw [if_neg fun mem => by simpa using h _ mem, if_neg fun mem => by simpa using h _ mem]

lemma any_eq_some_true : any values = some true ↔ some true ∈ values := by
  unfold any
  split
  · simp_all
  · split <;> simp_all

lemma any_eq_some_false : any values = some false ↔ ∀ a ∈ values, a = some false := by
  unfold any
  constructor
  · intro h a mem
    split at h
    · simp at h
    · split at h
      · simp at h
      · rcases a with _ | _ | _
        · contradiction
        · rfl
        · contradiction
  · intro h
    rw [if_neg fun mem => by simpa using h _ mem, if_neg fun mem => by simpa using h _ mem]

lemma xor_eq_some : xor a b = some x ↔ ∃ y z, a = some y ∧ b = some z ∧ (y != z) = x := by
  cases a <;> cases b <;> simp [xor]

lemma not_eq_some : not a = some x ↔ a = some !x := by
  rcases a with _ | _ | _ <;> cases x <;> simp [not]

/-- With known members a conjunction is the one of two-valued logic. -/
lemma all_map_some (known : List Bool) : all (known.map some) = some (known.all id) := by
  cases h : known.all id with
  | true =>
    refine all_eq_some_true.2 (List.forall_mem_map.2 fun x mem => ?_)
    exact congrArg some (List.all_eq_true.1 h x mem)
  | false =>
    obtain ⟨x, mem, eq⟩ := List.all_eq_false.1 h
    exact all_eq_some_false.2 (List.mem_map.2 ⟨x, mem, congrArg some (Bool.eq_false_iff.2 eq)⟩)

section Members

lemma all_pair_eq_some_false : all [a, b] = some false ↔ a = some false ∨ b = some false := by
  rw [all_eq_some_false, List.mem_pair, eq_comm, eq_comm (a := some false)]

lemma any_pair_eq_some_true : any [a, b] = some true ↔ a = some true ∨ b = some true := by
  rw [any_eq_some_true, List.mem_pair, eq_comm, eq_comm (a := some true)]

lemma all_cons (a : Option Bool) (values : List (Option Bool)) :
    all (a :: values) = all [a, all values] := by
  apply Option.ext
  intro x
  cases x with
  | false =>
    rw [all_pair_eq_some_false, all_eq_some_false, all_eq_some_false, List.mem_cons, eq_comm]
  | true => simp [all_eq_some_true]

lemma any_cons (a : Option Bool) (values : List (Option Bool)) :
    any (a :: values) = any [a, any values] := by
  apply Option.ext
  intro x
  cases x with
  | false => simp [any_eq_some_false]
  | true => rw [any_pair_eq_some_true, any_eq_some_true, any_eq_some_true, List.mem_cons, eq_comm]

lemma all_assoc : ∀ a b c : Option Bool, all [all [a, b], c] = all [a, all [b, c]] := by
  decide

lemma any_assoc : ∀ a b c : Option Bool, any [any [a, b], c] = any [a, any [b, c]] := by
  decide

end Members

section Total

lemma exists_all (known : ∀ a ∈ values, ∃ x, a = some x) : ∃ x, all values = some x := by
  have no_unknown : none ∉ values := fun mem => by simpa using known none mem
  unfold all
  rw [if_neg no_unknown]
  split <;> exact ⟨_, rfl⟩

lemma exists_any (known : ∀ a ∈ values, ∃ x, a = some x) : ∃ x, any values = some x := by
  have no_unknown : none ∉ values := fun mem => by simpa using known none mem
  unfold any
  rw [if_neg no_unknown]
  split <;> exact ⟨_, rfl⟩

lemma exists_xor (ha : ∃ y, a = some y) (hb : ∃ z, b = some z) : ∃ x, xor a b = some x := by
  obtain ⟨y, rfl⟩ := ha
  obtain ⟨z, rfl⟩ := hb
  exact ⟨y != z, rfl⟩

lemma exists_not (ha : ∃ y, a = some y) : ∃ x, not a = some x := by
  obtain ⟨y, rfl⟩ := ha
  exact ⟨!y, rfl⟩

end Total

section Monotone

variable {β : Type} {items : List β} {f g : β → Option Bool}

/-- A conjunction keeps its value if its members keep theirs. -/
theorem all_mono (more : ∀ a ∈ items, ∀ x, f a = some x → g a = some x)
    (h : all (items.map f) = some x) : all (items.map g) = some x := by
  cases x with
  | false =>
    obtain ⟨a, mem, eq⟩ := List.mem_map.1 (all_eq_some_false.1 h)
    exact all_eq_some_false.2 (List.mem_map.2 ⟨a, mem, more a mem false eq⟩)
  | true =>
    refine all_eq_some_true.2 (List.forall_mem_map.2 fun a mem => more a mem true ?_)
    exact all_eq_some_true.1 h (f a) (List.mem_map_of_mem mem)

/-- A disjunction keeps its value if its members keep theirs. -/
theorem any_mono (more : ∀ a ∈ items, ∀ x, f a = some x → g a = some x)
    (h : any (items.map f) = some x) : any (items.map g) = some x := by
  cases x with
  | true =>
    obtain ⟨a, mem, eq⟩ := List.mem_map.1 (any_eq_some_true.1 h)
    exact any_eq_some_true.2 (List.mem_map.2 ⟨a, mem, more a mem true eq⟩)
  | false =>
    refine any_eq_some_false.2 (List.forall_mem_map.2 fun a mem => more a mem false ?_)
    exact any_eq_some_false.1 h (f a) (List.mem_map_of_mem mem)

theorem xor_mono (left : ∀ x, a = some x → a' = some x) (right : ∀ x, b = some x → b' = some x)
    (h : xor a b = some x) : xor a' b' = some x := by
  obtain ⟨y, z, ha, hb, eq⟩ := xor_eq_some.1 h
  exact xor_eq_some.2 ⟨y, z, left y ha, right z hb, eq⟩

theorem not_mono (more : ∀ x, a = some x → a' = some x) (h : not a = some x) :
    not a' = some x :=
  not_eq_some.2 (more _ (not_eq_some.1 h))

end Monotone

end SpatialGrammar.Kleene
