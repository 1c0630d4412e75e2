import Mathlib.Logic.Function.Basic
import SpatialGrammar.Proofs.Constraint.Namespace

/-!
# Renaming is substitution

A renamed constraint is evaluated like the constraint itself on the values of the new names, all at
once: names may be exchanged, and several of them may become one. Main statements: `value?_rename`
and `workings_rename`, and `rename_substitutes` for constraints without conditions of the user,
which also says what a component's constraint means in the namespace of the box around it.
-/

namespace SpatialGrammar

variable {ρ : Assignment} {σ : Renaming}

/-- The assignment that gives each variable the value of its new name. -/
def Assignment.along (ρ : Assignment) (σ : Renaming) : Assignment := fun v => ρ (v.rename σ)

/-- A renaming that is given by pairs gives names that stand for themselves if the pairs do. -/
lemma Renaming.isCanonical_ofList {pairs : List (Name × Name)}
    (h : ∀ pair ∈ pairs, pair.2.canonical = pair.2) : (ofList pairs).IsCanonical := by
  intro name
  unfold ofList
  cases found : pairs.reverse.find? fun pair => pair.1 == name.canonical with
  | none => exact name.canonical_canonical
  | some pair => exact h pair (List.mem_reverse.1 (List.mem_of_find?_eq_some found))

section mapVariables

variable {f : Variable → Variable}

namespace Term

lemma value?_mapVariables (a : Term) : (a.mapVariables f).value? ρ = a.value? (ρ ∘ f) := by
  induction a with
  | number n => rfl
  | var v => rfl
  | add a b iha ihb => simp only [mapVariables, value?, iha, ihb]
  | sub a b iha ihb => simp only [mapVariables, value?, iha, ihb]
  | mul a b iha ihb => simp only [mapVariables, value?, iha, ihb]
  | neg a ih => simp only [mapVariables, value?, ih]

lemma workings_mapVariables (a : Term) : (a.mapVariables f).workings ρ = a.workings (ρ ∘ f) := by
  induction a with
  | number n => rfl
  | var v => rfl
  | add a b iha ihb => simp only [mapVariables, workings, value?_mapVariables, iha, ihb]
  | sub a b iha ihb => simp only [mapVariables, workings, value?_mapVariables, iha, ihb]
  | mul a b iha ihb => simp only [mapVariables, workings, value?_mapVariables, iha, ihb]
  | neg a ih => simp only [mapVariables, workings, value?, value?_mapVariables, ih]

end Term

namespace Formula

mutual

/-- A formula with other variables is evaluated like the formula on the values of these. -/
theorem value?_mapVariables (a : Formula) : (a.mapVariables f).value? ρ = a.value? (ρ ∘ f) := by
  cases a with
  | const b => rfl
  | compare a c b => simp only [mapVariables, value?, Term.value?_mapVariables]
  | within a range => simp only [mapVariables, value?, Term.value?_mapVariables]
  | conj items => simp only [mapVariables, value?, values?_mapVariablesOf items]
  | disj items => simp only [mapVariables, value?, values?_mapVariablesOf items]
  | xor a b => simp only [mapVariables, value?, value?_mapVariables a, value?_mapVariables b]
  | not a => simp only [mapVariables, value?, value?_mapVariables a]

theorem values?_mapVariablesOf (items : List Formula) :
    values? ρ (mapVariablesOf f items) = values? (ρ ∘ f) items := by
  cases items with
  | nil => rfl
  | cons a rest =>
    simp only [mapVariablesOf, values?, value?_mapVariables a, values?_mapVariablesOf rest]

end

mutual

theorem workings_mapVariables (a : Formula) :
    (a.mapVariables f).workings ρ = a.workings (ρ ∘ f) := by
  cases a with
  | const b => rfl
  | compare a c b =>
    simp only [mapVariables, workings, Term.value?_mapVariables, Term.workings_mapVariables]
  | within a range => simp only [mapVariables, workings, Term.workings_mapVariables]
  | conj items => simp only [mapVariables, workings, workingsUntil_mapVariablesOf items]
  | disj items => simp only [mapVariables, workings, workingsUntil_mapVariablesOf items]
  | xor a b =>
    simp only [mapVariables, workings, value?_mapVariables, workings_mapVariables a,
      workings_mapVariables b]
  | not a => simp only [mapVariables, workings, workings_mapVariables a]

theorem workingsUntil_mapVariablesOf {stop : Bool} (items : List Formula) :
    workingsUntil ρ stop (mapVariablesOf f items) = workingsUntil (ρ ∘ f) stop items := by
  cases items with
  | nil => rfl
  | cons a rest =>
    simp only [mapVariablesOf, workingsUntil, value?_mapVariables, workings_mapVariables a,
      workingsUntil_mapVariablesOf rest]

end

end Formula

end mapVariables

lemma Extent.value?_rename (canonical : σ.IsCanonical) (e : Extent) :
    (e.rename σ).value? ρ = e.value? (ρ.along σ) := by
  unfold Extent.value?
  congr 1
  refine List.map_congr_left fun (a, r) _ => ?_
  -- the name is stored as it was written, and is looked up by what it stands for
  have same := canonical.rename_of e.component a
  simp only [Assignment.along, rename, same]

namespace Placement

lemma value?_rename (canonical : σ.IsCanonical) (p : Placement) :
    (p.rename σ).value? ρ = p.value? (ρ.along σ) := by
  rw [value?, toFormula_rename canonical]
  exact p.toFormula.value?_mapVariables

lemma workings_rename (canonical : σ.IsCanonical) (p : Placement) :
    (p.rename σ).workings ρ = p.workings (ρ.along σ) := by
  rw [workings, toFormula_rename canonical]
  exact p.toFormula.workings_mapVariables

end Placement

lemma Condition.value?_rename {k : Condition} (follows : k.Follows) (canonical : σ.IsCanonical) :
    (k.rename σ).value? ρ = k.value? (ρ.along σ) := by
  rw [value?, follows σ canonical, List.map_map]
  rfl

namespace Constraint

variable {c : Constraint} {boxes : Name → Option Box} {b : Bool}

mutual

/-- A renamed constraint is evaluated like the constraint on the values of the new names. -/
theorem value?_rename (canonical : σ.IsCanonical) (c : Constraint)
    (follow : ∀ k ∈ c.conditions, k.Follows) : (c.rename σ).value? ρ = c.value? (ρ.along σ) := by
  cases c with
  | const b => rfl
  | formula a => exact a.value?_mapVariables
  | extent e => exact e.value?_rename canonical
  | placement p => exact p.value?_rename canonical
  | conj items => simp only [rename, value?, values?_renameAll canonical items follow]
  | disj items => simp only [rename, value?, values?_renameAll canonical items follow]
  | xor a b =>
    obtain ⟨left, right⟩ := List.forall_mem_append.1 follow
    simp only [rename, value?, value?_rename canonical a left, value?_rename canonical b right]
  | not a => simp only [rename, value?, value?_rename canonical a follow]
  | condition k => exact Condition.value?_rename (follow k (List.mem_singleton_self k)) canonical

theorem values?_renameAll (canonical : σ.IsCanonical) (items : List Constraint)
    (follow : ∀ k ∈ conditionsOf items, k.Follows) :
    values? ρ (renameAll σ items) = values? (ρ.along σ) items := by
  cases items with
  | nil => rfl
  | cons a rest =>
    obtain ⟨first, others⟩ := List.forall_mem_append.1 follow
    simp only [renameAll, values?, value?_rename canonical a first,
      values?_renameAll canonical rest others]

end

mutual

/-- The evaluation of a renamed constraint passes through the same integers. -/
theorem workings_rename (canonical : σ.IsCanonical) (c : Constraint)
    (follow : ∀ k ∈ c.conditions, k.Follows) :
    (c.rename σ).workings ρ = c.workings (ρ.along σ) := by
  cases c with
  | const b => rfl
  | formula a => exact a.workings_mapVariables
  | extent e => rfl
  | placement p => exact p.workings_rename canonical
  | conj items => simp only [rename, workings, workingsUntil_renameAll canonical items follow]
  | disj items => simp only [rename, workings, workingsUntil_renameAll canonical items follow]
  | xor a b =>
    obtain ⟨left, right⟩ := List.forall_mem_append.1 follow
    simp only [rename, workings, value?_rename canonical a left, workings_rename canonical a left,
      workings_rename canonical b right]
  | not a => simp only [rename, workings, workings_rename canonical a follow]
  | condition k => rfl

theorem workingsUntil_renameAll (canonical : σ.IsCanonical) {stop : Bool} (items : List Constraint)
    (follow : ∀ k ∈ conditionsOf items, k.Follows) :
    workingsUntil ρ stop (renameAll σ items) = workingsUntil (ρ.along σ) stop items := by
  cases items with
  | nil => rfl
  | cons a rest =>
    obtain ⟨first, others⟩ := List.forall_mem_append.1 follow
    simp only [renameAll, workingsUntil, value?_rename canonical a first,
      workings_rename canonical a first, workingsUntil_renameAll canonical rest others]

end

section evaluation

variable (canonical : σ.IsCanonical) (follow : ∀ k ∈ c.conditions, k.Follows)

include canonical follow

lemma boundedValue_rename : (c.rename σ).boundedValue ρ = c.boundedValue (ρ.along σ) := by
  rw [boundedValue, workings_rename canonical c follow, value?_rename canonical c follow]
  rfl

lemma readingWorkings_rename :
    (c.rename σ).readingWorkings boxes = c.readingWorkings (boxes ∘ σ) := by
  rw [readingWorkings, mentions_rename canonical c follow, Assignment.ofBoxesWorkings,
    List.flatMap_map]
  rfl

lemma knows_rename : ρ.Knows (c.rename σ).mentions ↔ (ρ.along σ).Knows c.mentions := by
  rw [mentions_rename canonical c follow]
  exact List.forall_mem_map

/-- What boxes decide of a renamed constraint, they decide of the constraint when each name stands
for the box of the new one. -/
lemma valueAt_rename : (c.rename σ).valueAt boxes = c.valueAt (boxes ∘ σ) := by
  rw [valueAt, readingWorkings_rename canonical follow, boundedValue_rename canonical follow]
  rfl

/-- The strict evaluation of a renamed constraint has the verdict of the constraint when each name
stands for the box of the new one. -/
lemma checkAt_rename : (c.rename σ).checkAt boxes = .ok b ↔ c.checkAt (boxes ∘ σ) = .ok b := by
  rw [checkAt_eq_ok_iff, checkAt_eq_ok_iff, readingWorkings_rename canonical follow,
    knows_rename canonical follow, workings_rename canonical c follow,
    value?_rename canonical c follow]
  rfl

end evaluation

/-- The boxes of the names as a component sees them: its own box has no name, the box around it is
the parent, and all other names are shared. -/
def seenFrom (component : Name) (boxes : Name → Option Box) : Name → Option Box :=
  Function.update (Function.update boxes Name.parent (boxes Name.own)) Name.own (boxes component)

lemma seenFrom_eq (component : Name) (boxes : Name → Option Box) :
    seenFrom component boxes = boxes ∘ Renaming.binding component := by
  funext name
  simp only [seenFrom, Function.update_apply, Function.comp_apply, Renaming.binding]
  split
  · rfl
  · split <;> rfl

/-- For a constraint without conditions of the user, renaming its components is the same as giving
each variable the value of its new name, in one step. In particular, the constraint of a component
that is bound into the namespace of the box around it means there what it means for the component:
the boxes decide the same of it, and the strict evaluation has the same verdict. -/
theorem rename_substitutes (plain : c.conditions = []) :
    (∀ σ : Renaming, σ.IsCanonical → ∀ ρ : Assignment,
      (c.rename σ).value? ρ = c.value? (ρ.along σ) ∧
        (c.rename σ).boundedValue ρ = c.boundedValue (ρ.along σ)) ∧
    ∀ component : Name, component.canonical = component → ∀ boxes : Name → Option Box,
      (c.boundAs component).valueAt boxes = c.valueAt (seenFrom component boxes) ∧
        ∀ b, (c.boundAs component).checkAt boxes = .ok b ↔
          c.checkAt (seenFrom component boxes) = .ok b := by
  have follow : ∀ k ∈ c.conditions, k.Follows := by
    rw [plain]
    exact List.forall_mem_nil _
  refine ⟨fun σ canonical ρ => ?_, fun component stands boxes => ?_⟩
  · exact ⟨value?_rename canonical c follow, boundedValue_rename canonical follow⟩
  · have canonical := Renaming.isCanonical_binding stands
    rw [seenFrom_eq]
    exact ⟨valueAt_rename canonical follow, fun b => checkAt_rename canonical follow⟩

/-- Two components are exchanged and a third one becomes one of them, all at once, in a constraint
on where they lie and how wide they are; and a key is asked to lie within its record. -/
theorem rename_substitutes_exchange :
    let boxes : Name → Option Box := fun name =>
      if name = "a" then some ⟨4, 0, 1, 1⟩ else if name = "b" then some ⟨0, 0, 2, 1⟩
      else if name = Name.own then some ⟨0, 0, 5, 1⟩ else none
    let σ := Renaming.ofList [("a", "b"), ("b", "a"), ("d", "b")]
    let ordered : Constraint :=
      conj [formula (.compare (.var ⟨"a", .left⟩) .lt (.var ⟨"b", .left⟩)),
        extent ⟨"d", some (Interval.exact 2), none⟩]
    let within : Constraint :=
      placement (Placement.ofSides { left := some (Interval.exact 4) } {} true)
    ordered.conditions = [] ∧ σ.IsCanonical ∧
      ordered.value? (Assignment.ofBoxes boxes) = some false ∧
      (ordered.rename σ).value? (Assignment.ofBoxes boxes) = some true ∧
      within.conditions = [] ∧ Name.canonical "a" = "a" ∧
      (within.boundAs "a").valueAt boxes = .ok (some true) ∧
      (within.boundAs "a").checkAt boxes = .ok true := by
  intro boxes σ ordered within
  have canonical : σ.IsCanonical := Renaming.isCanonical_ofList (by decide)
  have plain : ordered.conditions = [] := rfl
  have plain' : within.conditions = [] := rfl
  obtain ⟨substituted, -⟩ := rename_substitutes plain
  obtain ⟨-, bound⟩ := rename_substitutes plain'
  obtain ⟨seen, strictly⟩ := bound "a" (by decide) boxes
  refine ⟨plain, canonical, by decide, ?_, plain', by decide, ?_, ?_⟩
  · rw [(substituted σ canonical (Assignment.ofBoxes boxes)).1]
    decide
  · rw [seen]
    decide
  · rw [strictly]
    decide +kernel

end Constraint

end SpatialGrammar
