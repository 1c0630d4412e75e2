import Mathlib.Tactic.Lemma
import SpatialGrammar.Constraint.Basic

/-!
# Induction on formulas and constraints

Formulas and constraints contain lists of their own kind. The principles `Formula.induction` and
`Constraint.induction` offer one hypothesis for all members of such a list.
-/

namespace SpatialGrammar

/-- A property holds of a formula if it holds of the atomic ones and passes from the members of a
connective to the connective. -/
@[elab_as_elim]
theorem Formula.induction {P : Formula → Prop} (a : Formula)
    (const : ∀ b, P (const b))
    (compare : ∀ a c b, P (compare a c b))
    (within : ∀ a range, P (within a range))
    (conj : ∀ items, (∀ a ∈ items, P a) → P (conj items))
    (disj : ∀ items, (∀ a ∈ items, P a) → P (disj items))
    (xor : ∀ a b, P a → P b → P (xor a b))
    (not : ∀ a, P a → P (not a)) : P a :=
  @Formula.rec P (fun items => ∀ a ∈ items, P a) const compare within conj disj xor not
    (List.forall_mem_nil P) (fun _ _ head tail => List.forall_mem_cons.2 ⟨head, tail⟩) a

/-- A property holds of a constraint if it holds of the atomic ones and passes from the members of
a connective to the connective. -/
@[elab_as_elim]
theorem Constraint.induction {P : Constraint → Prop} (c : Constraint)
    (const : ∀ b, P (const b))
    (formula : ∀ a, P (formula a))
    (extent : ∀ e, P (extent e))
    (placement : ∀ p, P (placement p))
    (conj : ∀ items, (∀ c ∈ items, P c) → P (conj items))
    (disj : ∀ items, (∀ c ∈ items, P c) → P (disj items))
    (xor : ∀ a b, P a → P b → P (xor a b))
    (not : ∀ a, P a → P (not a))
    (condition : ∀ k, P (condition k)) : P c :=
  @Constraint.rec P (fun items => ∀ c ∈ items, P c) const formula extent placement conj disj xor
    not condition (List.forall_mem_nil P)
    (fun _ _ head tail => List.forall_mem_cons.2 ⟨head, tail⟩) c

end SpatialGrammar
