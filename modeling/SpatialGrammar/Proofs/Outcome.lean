import Mathlib.Data.List.Forall2
import SpatialGrammar.Constraint.Error

/-!
# Successful calculations

What is known when a calculation that may fail has a result: each of its steps has one. Main
statements: `bind_eq_ok` for two steps, and `mapM_eq_ok`, `exists_filter_of_filterM` and
`allM_eq_ok` for the steps along a list.
-/

namespace SpatialGrammar.Outcome

variable {ε β γ : Type} {b : β} {c : γ} {xs : List β} {ys : List γ}

lemma bind_eq_ok {x : Except ε β} {f : β → Except ε γ} :
    (x >>= f) = .ok c ↔ ∃ b, x = .ok b ∧ f b = .ok c := by
  cases x <;> simp [bind, Except.bind]

lemma pure_eq_ok {b' : β} : (pure b : Except ε β) = .ok b' ↔ b = b' := by
  simp [pure, Except.pure]

lemma map_eq_ok {x : Except ε β} {f : β → γ} : x.map f = .ok c ↔ ∃ b, x = .ok b ∧ f b = c := by
  cases x <;> simp [Except.map]

lemma mapError_eq_ok {ε' : Type} {x : Except ε β} {f : ε → ε'} : x.mapError f = .ok b ↔ x = .ok b := by
  cases x <;> simp [Except.mapError]

lemma toOption_eq_some {x : Except ε β} : x.toOption = some b ↔ x = .ok b := by
  cases x <;> simp [Except.toOption]

/-- A calculation whose result passes a test has a result. -/
lemma exists_of_any_toOption {x : Except ε β} {test : β → Bool}
    (h : x.toOption.any test = true) : ∃ b, x = .ok b ∧ test b = true := by
  obtain ⟨b, eq, passed⟩ := (Option.any_eq_true _ _).1 h
  exact ⟨b, toOption_eq_some.1 eq, passed⟩

/-- Something is found after a check if the check has been passed and it is found then. -/
lemma ite_eq_ok_some {check : Except ε Bool} {body : Except ε (Option β)} :
    (do if ← check then body else return none) = .ok (some b) ↔
      check = .ok true ∧ body = .ok (some b) := by
  rw [bind_eq_ok]
  constructor
  · rintro ⟨_ | _, passed, h⟩
    · simp [pure_eq_ok] at h
    · exact ⟨passed, h⟩
  · rintro ⟨passed, h⟩
    exact ⟨true, passed, h⟩

/-- A function has results along a list if it has one for each member. -/
lemma mapM_eq_ok {f : β → Except ε γ} :
    xs.mapM f = .ok ys ↔ List.Forall₂ (fun x y => f x = .ok y) xs ys := by
  induction xs generalizing ys with
  | nil => cases ys <;> simp [pure, Except.pure]
  | cons x xs ih =>
    simp only [List.mapM_cons, bind_eq_ok, pure_eq_ok, List.forall₂_cons_left_iff, ih]
    constructor
    · rintro ⟨y, hy, ys, hys, rfl⟩
      exact ⟨y, ys, hy, hys, rfl⟩
    · rintro ⟨y, ys, hy, hys, rfl⟩
      exact ⟨y, hy, ys, hys, rfl⟩

/-- Every result along a list is the one of a member. -/
lemma exists_of_mapM {f : β → Except ε γ} (h : xs.mapM f = .ok ys) (hc : c ∈ ys) :
    ∃ b ∈ xs, f b = .ok c := by
  have all := mapM_eq_ok.1 h
  clear h
  induction all with
  | nil => cases hc
  | cons head _ ih =>
    cases hc with
    | head => exact ⟨_, List.mem_cons_self, head⟩
    | tail _ hc =>
      obtain ⟨b, hb, e⟩ := ih hc
      exact ⟨b, List.mem_cons_of_mem _ hb, e⟩

/-- The results along a list are those of its members. -/
lemma eq_map_of_mapM {f : β → Except ε γ} {g : β → γ} (h : xs.mapM f = .ok ys)
    (each : ∀ x ∈ xs, ∀ y, f x = .ok y → y = g x) : ys = xs.map g := by
  have all := mapM_eq_ok.1 h
  clear h
  induction all with
  | nil => rfl
  | cons head _ ih =>
    obtain ⟨first, rest⟩ := List.forall_mem_cons.1 each
    rw [List.map_cons, ← first _ head, ← ih rest]

/-- Everything that is found along a list is found for a member. -/
lemma exists_of_mapM_option {f : β → Except ε (Option γ)} {found : List (Option γ)}
    (h : xs.mapM f = .ok found) (hc : c ∈ found.filterMap id) :
    ∃ b ∈ xs, f b = .ok (some c) := by
  obtain ⟨_, mem, rfl : _ = some c⟩ := List.mem_filterMap.1 hc
  exact exists_of_mapM h mem

/-- What is found along a list is related as the members are for which it is found. -/
lemma pairwise_of_mapM_option {f : β → Except ε (Option γ)} {found : List (Option γ)}
    {R : β → β → Prop} {S : γ → γ → Prop} (h : xs.mapM f = .ok found) (pairs : xs.Pairwise R)
    (step : ∀ x y c d, R x y → f x = .ok (some c) → f y = .ok (some d) → S c d) :
    (found.filterMap id).Pairwise S := by
  have all := mapM_eq_ok.1 h
  clear h
  induction all with
  | nil => exact .nil
  | @cons x o xs os head tail ih =>
    obtain ⟨first, pairs⟩ := List.pairwise_cons.1 pairs
    cases o with
    | none => exact ih pairs
    | some c =>
      refine .cons (fun d hd => ?_) (ih pairs)
      obtain ⟨y, hy, eq⟩ := exists_of_mapM_option (mapM_eq_ok.2 tail) hd
      exact step x y c d (first y hy) head eq

/-- A test succeeds along a list if it succeeds for each member. -/
lemma allM_eq_ok {f : β → Except ε Bool} :
    xs.allM f = .ok true ↔ ∀ x ∈ xs, f x = .ok true := by
  induction xs with
  | nil => simp [List.allM, pure, Except.pure]
  | cons x xs ih =>
    simp only [List.allM, bind_eq_ok, List.forall_mem_cons, ← ih]
    constructor
    · rintro ⟨_ | _, first, rest⟩
      · simp [pure_eq_ok] at rest
      · exact ⟨first, rest⟩
    · rintro ⟨first, rest⟩
      exact ⟨true, first, rest⟩

/-- A test only fails along a list if it fails for a member. -/
lemma exists_of_allM_false {f : β → Except ε Bool} (h : xs.allM f = .ok false) :
    ∃ x ∈ xs, f x = .ok false := by
  induction xs with
  | nil => simp [List.allM, pure, Except.pure] at h
  | cons x xs ih =>
    simp only [List.allM, bind_eq_ok] at h
    obtain ⟨_ | _, first, rest⟩ := h
    · exact ⟨x, List.mem_cons_self, first⟩
    · obtain ⟨y, hy, failed⟩ := ih rest
      exact ⟨y, List.mem_cons_of_mem x hy, failed⟩

/-- Members of a list that pass a test in any case need not be tested. -/
lemma allM_filter {f : β → Except ε Bool} {p : β → Bool}
    (rest : ∀ x ∈ xs, p x = false → f x = .ok true) : (xs.filter p).allM f = xs.allM f := by
  induction xs with
  | nil => rfl
  | cons x xs ih =>
    obtain ⟨first, rest⟩ := List.forall_mem_cons.1 rest
    cases px : p x with
    | true => simp only [List.filter_cons, px, if_true, List.allM, ih rest]
    | false =>
      simp only [List.filter_cons, px, Bool.false_eq_true, if_false, List.allM, first px, ih rest]
      rfl

lemma filterAuxM_eq_ok {f : β → Except ε Bool} {zs acc : List β}
    (h : List.filterAuxM f xs acc = .ok zs) :
    (∀ x ∈ xs, ∃ passed, f x = .ok passed) ∧
      zs = (xs.filter fun x => (f x).toOption.getD false).reverse ++ acc := by
  induction xs generalizing acc with
  | nil =>
    simp only [List.filterAuxM, pure_eq_ok] at h
    exact ⟨nofun, h.symm⟩
  | cons x xs ih =>
    simp only [List.filterAuxM, bind_eq_ok] at h
    obtain ⟨passed, first, rest⟩ := h
    obtain ⟨all, rfl⟩ := ih rest
    refine ⟨List.forall_mem_cons.2 ⟨⟨passed, first⟩, all⟩, ?_⟩
    cases passed <;> simp [first, Except.toOption]

/-- The members of a list that pass a test are those for which it succeeds. -/
lemma exists_filter_of_filterM {f : β → Except ε Bool} {zs : List β} (h : xs.filterM f = .ok zs) :
    ∃ test : β → Bool, (∀ x ∈ xs, f x = .ok (test x)) ∧ zs = xs.filter test := by
  simp only [List.filterM, bind_eq_ok, pure_eq_ok] at h
  obtain ⟨_, found, rfl⟩ := h
  obtain ⟨all, rfl⟩ := filterAuxM_eq_ok found
  refine ⟨fun x => (f x).toOption.getD false, fun x hx => ?_, by simp⟩
  obtain ⟨passed, eq⟩ := all x hx
  simp [eq, Except.toOption]

/-- The members of a list that pass a test are a part of it. -/
lemma filterM_eq_ok {f : β → Except ε Bool} {zs : List β} (h : xs.filterM f = .ok zs) :
    zs.Sublist xs ∧ ∀ z ∈ zs, f z = .ok true := by
  obtain ⟨test, tested, rfl⟩ := exists_filter_of_filterM h
  refine ⟨List.filter_sublist, fun z hz => ?_⟩
  obtain ⟨mem, passed⟩ := List.mem_filter.1 hz
  rw [tested z mem, passed]

/-- A check succeeds along a list if it succeeds for each member. -/
lemma forM_eq_ok {f : β → Except ε Unit} : xs.forM f = .ok () ↔ ∀ x ∈ xs, f x = .ok () := by
  induction xs with
  | nil => simp [pure, Except.pure]
  | cons x xs ih =>
    have step : (x :: xs).forM f = (do f x; xs.forM f) := List.forM_cons
    rw [step, bind_eq_ok, List.forall_mem_cons, ← ih]
    exact ⟨fun ⟨_, first, rest⟩ => ⟨first, rest⟩, fun ⟨first, rest⟩ => ⟨(), first, rest⟩⟩

lemma guardWords_eq_ok {workings : List Int} {u : Unit} :
    Fault.guardWords workings = .ok u ↔ Word.holdsAll workings = true := by
  unfold Fault.guardWords
  split <;> simp_all

lemma within_eq_ok {workings : List Int} {b' : β} :
    Fault.within workings b = .ok b' ↔ Word.holdsAll workings = true ∧ b = b' := by
  unfold Fault.within
  split <;> simp_all

end SpatialGrammar.Outcome
