import Mathlib.Data.List.Basic
import SpatialGrammar.Proofs.Constraint.Evaluation

/-!
# Constraints in another namespace

What a constraint mentions once its components are renamed. Main statements:
`Constraint.mentions_rename`, the variables are renamed along with the components, provided that
the user's conditions play along, and `Constraint.IsTame.boundAs`, binding a constraint of a
component keeps the user's conditions in order.
-/

namespace SpatialGrammar

namespace Name

/-- A name cannot be given to a component: it stands for the own box or for the parent. -/
def IsReserved (name : Name) : Prop := name ∈ [own, parent, "this", "parent"]

instance (name : Name) : Decidable name.IsReserved :=
  inferInstanceAs (Decidable (name ∈ [own, parent, "this", "parent"]))

variable {name : Name}

lemma ne_own_of_not_isReserved (h : ¬ name.IsReserved) : name ≠ own :=
  fun same => h (by simp [IsReserved, same])

lemma ne_parent_of_not_isReserved (h : ¬ name.IsReserved) : name ≠ parent :=
  fun same => h (by simp [IsReserved, same])

/-- A word that is not reserved stands for itself. -/
lemma canonical_of_not_isReserved (h : ¬ name.IsReserved) : name.canonical = name := by
  simp only [IsReserved, List.mem_cons, not_or] at h
  rw [canonical, if_neg h.2.2.1, if_neg h.2.2.2.1]

lemma canonical_canonical (name : Name) : name.canonical.canonical = name.canonical := by
  unfold canonical
  split
  · decide
  · split
    · decide
    · rfl

end Name

namespace Renaming

/-- A renaming gives names that stand for themselves. -/
def IsCanonical (σ : Renaming) : Prop := ∀ name : Name, (σ name.canonical).canonical = σ name.canonical

lemma isCanonical_binding {component : Name} (h : component.canonical = component) :
    (binding component).IsCanonical := by
  intro name
  unfold binding
  split
  · exact h
  · split
    · decide
    · exact name.canonical_canonical

variable {σ : Renaming}

lemma IsCanonical.rename_of (h : σ.IsCanonical) (name : Name) (a : Attribute) :
    Variable.of (σ name.canonical) a = (Variable.of name a).rename σ :=
  congrArg (Variable.mk · a) (h name)

end Renaming

variable {σ : Renaming}

lemma Term.mentions_mapVariables (f : Variable → Variable) (a : Term) :
    (a.mapVariables f).mentions = a.mentions.map f := by
  induction a with
  | number n => rfl
  | var v => rfl
  | add a b iha ihb => simp only [mapVariables, mentions, iha, ihb, List.map_append]
  | sub a b iha ihb => simp only [mapVariables, mentions, iha, ihb, List.map_append]
  | mul a b iha ihb => simp only [mapVariables, mentions, iha, ihb, List.map_append]
  | neg a ih => simp only [mapVariables, mentions, ih]

lemma Formula.mentions_mapVariables (f : Variable → Variable) (a : Formula) :
    (a.mapVariables f).mentions = a.mentions.map f := by
  have lists (items : List Formula)
      (ih : ∀ a ∈ items, (a.mapVariables f).mentions = a.mentions.map f) :
      mentionsOf (mapVariablesOf f items) = (mentionsOf items).map f := by
    rw [mapVariablesOf_eq_map, mentionsOf_eq_flatMap, mentionsOf_eq_flatMap, List.flatMap_map,
      List.map_flatMap]
    exact List.flatMap_congr ih
  induction a using Formula.induction with
  | const b => rfl
  | compare a c b =>
    simp only [mapVariables, mentions, Term.mentions_mapVariables, List.map_append]
  | within a range => exact a.mentions_mapVariables f
  | conj items ih => exact lists items ih
  | disj items ih => exact lists items ih
  | xor a b iha ihb => simp only [mapVariables, mentions, iha, ihb, List.map_append]
  | not a ih => exact ih

lemma Extent.mentions_rename (canonical : σ.IsCanonical) (e : Extent) :
    (e.rename σ).mentions = e.mentions.map (Variable.rename σ) := by
  rw [mentions, mentions, List.map_map]
  exact List.map_congr_left fun limit _ => canonical.rename_of e.component limit.1

namespace Placement

lemma mapVariables_edgeTerm (canonical : σ.IsCanonical) (name : Name) (s : Side) :
    edgeTerm (σ name.canonical) s = (edgeTerm name s).mapVariables (Variable.rename σ) :=
  congrArg Term.var (canonical.rename_of name (Attribute.ofSide s))

lemma mapVariables_signedDifference (f : Variable → Variable) (a b : Term) (sign : Int) :
    signedDifference (a.mapVariables f) (b.mapVariables f) sign =
      (signedDifference a b sign).mapVariables f := by
  unfold signedDifference
  split <;> rfl

/-- Renaming a placement renames the variables of its formula. -/
lemma toFormula_rename (canonical : σ.IsCanonical) (p : Placement) :
    (p.rename σ).toFormula = p.toFormula.mapVariables (Variable.rename σ) := by
  rw [toFormula, toFormula, Formula.mapVariables, Formula.mapVariablesOf_eq_map, List.map_append,
    List.map_map, List.map_map]
  simp only [rename, mapVariables_edgeTerm canonical, mapVariables_signedDifference]
  rfl

end Placement

/-- The variables of a condition follow its subjects when these are renamed. -/
def Condition.Follows (k : Condition) : Prop :=
  ∀ τ : Renaming, τ.IsCanonical → (k.rename τ).mentions = k.mentions.map (Variable.rename τ)

namespace Constraint

/-- The user's conditions in a constraint keep to what is asked of them. -/
def IsTame (c : Constraint) : Prop := ∀ k ∈ c.conditions, k.IsLawful ∧ k.Follows

lemma isTame_of_plain {c : Constraint} (plain : c.conditions = []) : c.IsTame := by
  intro k mem
  rw [plain] at mem
  cases mem

lemma conditions_rename (c : Constraint) :
    (c.rename σ).conditions = c.conditions.map (Condition.rename σ) := by
  have lists (items : List Constraint)
      (ih : ∀ c ∈ items, (c.rename σ).conditions = c.conditions.map (Condition.rename σ)) :
      conditionsOf (renameAll σ items) = (conditionsOf items).map (Condition.rename σ) := by
    rw [renameAll_eq_map, conditionsOf_eq_flatMap, conditionsOf_eq_flatMap, List.flatMap_map,
      List.map_flatMap]
    exact List.flatMap_congr ih
  induction c using Constraint.induction with
  | const b => rfl
  | formula a => rfl
  | extent e => rfl
  | placement p => rfl
  | conj items ih => exact lists items ih
  | disj items ih => exact lists items ih
  | xor a b iha ihb => simp only [rename, conditions, iha, ihb, List.map_append]
  | not a ih => exact ih
  | condition k => rfl

/-- The variables of a constraint are renamed along with its components. -/
theorem mentions_rename (canonical : σ.IsCanonical) (c : Constraint)
    (follow : ∀ k ∈ c.conditions, k.Follows) :
    (c.rename σ).mentions = c.mentions.map (Variable.rename σ) := by
  have lists (items : List Constraint) (follow : ∀ k ∈ conditionsOf items, k.Follows)
      (ih : ∀ c ∈ items, (∀ k ∈ c.conditions, k.Follows) →
        (c.rename σ).mentions = c.mentions.map (Variable.rename σ)) :
      mentionsOf (renameAll σ items) = (mentionsOf items).map (Variable.rename σ) := by
    rw [conditionsOf_eq_flatMap] at follow
    rw [renameAll_eq_map, mentionsOf_eq_flatMap, mentionsOf_eq_flatMap, List.flatMap_map,
      List.map_flatMap]
    exact List.flatMap_congr fun c mem =>
      ih c mem fun k hk => follow k (List.mem_flatMap_of_mem mem hk)
  induction c using Constraint.induction with
  | const b => rfl
  | formula a => exact a.mentions_mapVariables _
  | extent e => exact e.mentions_rename canonical
  | placement p =>
    have renamed := congrArg Formula.mentions (p.toFormula_rename canonical)
    exact renamed.trans (p.toFormula.mentions_mapVariables _)
  | conj items ih => exact lists items follow ih
  | disj items ih => exact lists items follow ih
  | xor a b iha ihb =>
    have left := iha fun k hk => follow k (List.mem_append_left b.conditions hk)
    have right := ihb fun k hk => follow k (List.mem_append_right a.conditions hk)
    simp only [rename, mentions, left, right, List.map_append]
  | not a ih => exact ih follow
  | condition k => exact follow k (List.mem_singleton_self k) σ canonical

variable {c : Constraint} {component : Name}

lemma IsTame.isLawful (h : c.IsTame) : c.IsLawful := fun k hk => (h k hk).1

/-- A constraint that is bound under the name of a component mentions that component for its own
box and the own box for the parent. -/
lemma IsTame.mentions_boundAs (h : c.IsTame) (free : ¬ component.IsReserved) :
    (c.boundAs component).mentions = c.mentions.map (Variable.rename (Renaming.binding component)) :=
  c.mentions_rename (Renaming.isCanonical_binding (Name.canonical_of_not_isReserved free))
    fun k hk => (h k hk).2

lemma IsLawful.boundAs (h : c.IsLawful) (component : Name) : (c.boundAs component).IsLawful := by
  intro k mem
  rw [Constraint.boundAs, conditions_rename] at mem
  obtain ⟨k, hk, rfl⟩ := List.mem_map.1 mem
  exact (h k hk).rename _

end Constraint

end SpatialGrammar
