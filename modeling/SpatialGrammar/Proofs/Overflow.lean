import SpatialGrammar.Proofs.Outcome

/-!
# Calculations that only overflow

A calculation may fail because an integer leaves the words, or because a constraint cannot be
evaluated. `OnlyOverflows` says that the second never happens. It passes from the steps of a
calculation to the whole: `OnlyOverflows.bind` for two steps, and `OnlyOverflows.mapM`,
`OnlyOverflows.filterM` and `OnlyOverflows.allM` for the steps along a list.
-/

namespace SpatialGrammar.Outcome

variable {β γ : Type} {b : β} {xs : List β}

/-- A calculation does not fail for a constraint that cannot be evaluated. -/
def OnlyOverflows (x : Except Fault β) : Prop := ∀ e, x ≠ .error (.constraint e)

namespace OnlyOverflows

lemma ok : OnlyOverflows (.ok b) := nofun

lemma error_overflow : OnlyOverflows (.error .overflow : Except Fault β) := nofun

/-- Without an overflow there is a result. -/
lemma exists_ok {x : Except Fault β} (h : OnlyOverflows x) (fits : x ≠ .error .overflow) :
    ∃ b, x = .ok b := by
  cases x with
  | ok b => exact ⟨b, rfl⟩
  | error fault =>
    cases fault with
    | overflow => exact absurd rfl fits
    | constraint e => exact absurd rfl (h e)

lemma bind {x : Except Fault β} {f : β → Except Fault γ} (first : OnlyOverflows x)
    (second : ∀ b, x = .ok b → OnlyOverflows (f b)) : OnlyOverflows (x >>= f) := by
  cases x with
  | ok b => exact second b rfl
  | error fault =>
    cases fault with
    | overflow => exact error_overflow
    | constraint e => exact absurd rfl (first e)

lemma guardWords (workings : List Int) : OnlyOverflows (Fault.guardWords workings) := by
  unfold Fault.guardWords
  split
  · exact ok
  · exact error_overflow

lemma require (fits : Bool) : OnlyOverflows (Fault.require fits) := by
  unfold Fault.require
  split
  · exact ok
  · exact error_overflow

lemma within (workings : List Int) (b : β) : OnlyOverflows (Fault.within workings b) := by
  unfold Fault.within
  split
  · exact ok
  · exact error_overflow

lemma mapM {f : β → Except Fault γ} (each : ∀ x ∈ xs, OnlyOverflows (f x)) :
    OnlyOverflows (xs.mapM f) := by
  induction xs with
  | nil => exact ok
  | cons x xs ih =>
    obtain ⟨first, rest⟩ := List.forall_mem_cons.1 each
    rw [List.mapM_cons]
    exact first.bind fun _ _ => (ih rest).bind fun _ _ => ok

lemma allM {f : β → Except Fault Bool} (each : ∀ x ∈ xs, OnlyOverflows (f x)) :
    OnlyOverflows (xs.allM f) := by
  induction xs with
  | nil => exact ok
  | cons x xs ih =>
    obtain ⟨first, rest⟩ := List.forall_mem_cons.1 each
    refine first.bind fun passed _ => ?_
    cases passed with
    | true => exact ih rest
    | false => exact ok

lemma filterM {f : β → Except Fault Bool} (each : ∀ x ∈ xs, OnlyOverflows (f x)) :
    OnlyOverflows (xs.filterM f) := by
  have loop : ∀ acc, OnlyOverflows (List.filterAuxM f xs acc) := by
    induction xs with
    | nil => exact fun _ => ok
    | cons x xs ih =>
      obtain ⟨first, rest⟩ := List.forall_mem_cons.1 each
      exact fun acc => first.bind fun _ _ => ih rest _
  exact (loop []).bind fun _ _ => ok

end OnlyOverflows

end SpatialGrammar.Outcome
