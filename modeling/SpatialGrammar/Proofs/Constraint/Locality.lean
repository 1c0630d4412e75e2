import Mathlib.Data.List.Basic
import Mathlib.Data.List.Find
import SpatialGrammar.Constraint.Basic

/-!
# What constraints look at

The evaluation of a constraint depends on nothing but the values of the variables that it mentions.
Main statement: `Constraint.checkAt_congr`, boxes that agree for the mentioned components give the
same outcome of the strict evaluation, errors and overflows included.
-/

namespace SpatialGrammar

/-- Two assignments give the same values to some variables. -/
def Agree (ρ σ : Assignment) (vs : List Variable) : Prop := ∀ v ∈ vs, ρ v = σ v

variable {ρ σ : Assignment} {vs ws : List Variable}

lemma Agree.left (h : Agree ρ σ (vs ++ ws)) : Agree ρ σ vs :=
  fun v hv => h v (List.mem_append_left ws hv)

lemma Agree.right (h : Agree ρ σ (vs ++ ws)) : Agree ρ σ ws :=
  fun v hv => h v (List.mem_append_right vs hv)

namespace Term

lemma value?_congr {a : Term} (h : Agree ρ σ a.mentions) : a.value? ρ = a.value? σ := by
  induction a with
  | number n => rfl
  | var v => exact h v (List.mem_singleton_self v)
  | add a b iha ihb => simp only [value?, iha h.left, ihb h.right]
  | sub a b iha ihb => simp only [value?, iha h.left, ihb h.right]
  | mul a b iha ihb => simp only [value?, iha h.left, ihb h.right]
  | neg a ih => simp only [value?, ih h]

lemma workings_congr {a : Term} (h : Agree ρ σ a.mentions) : a.workings ρ = a.workings σ := by
  induction a with
  | number n => rfl
  | var v => rfl
  | add a b iha ihb =>
    simp only [workings, iha h.left, ihb h.right, value?_congr h.left, value?_congr h.right]
  | sub a b iha ihb =>
    simp only [workings, iha h.left, ihb h.right, value?_congr h.left, value?_congr h.right]
  | mul a b iha ihb =>
    simp only [workings, iha h.left, ihb h.right, value?_congr h.left, value?_congr h.right]
  | neg a ih => simp only [workings, ih h, value?_congr (a := neg a) h]

end Term

namespace Formula

mutual

/-- The truth value of a formula depends on the variables that it mentions. -/
theorem value?_congr (a : Formula) (h : Agree ρ σ a.mentions) : a.value? ρ = a.value? σ := by
  cases a with
  | const b => rfl
  | compare a c b => simp only [value?, Term.value?_congr h.left, Term.value?_congr h.right]
  | within a range => simp only [value?, Term.value?_congr h]
  | conj items => simp only [value?, values?_congr items h]
  | disj items => simp only [value?, values?_congr items h]
  | xor a b => simp only [value?, value?_congr a h.left, value?_congr b h.right]
  | not a => simp only [value?, value?_congr a h]

theorem values?_congr (items : List Formula) (h : Agree ρ σ (mentionsOf items)) :
    values? ρ items = values? σ items := by
  cases items with
  | nil => rfl
  | cons a rest => simp only [values?, value?_congr a h.left, values?_congr rest h.right]

end

mutual

theorem workings_congr (a : Formula) (h : Agree ρ σ a.mentions) :
    a.workings ρ = a.workings σ := by
  cases a with
  | const b => rfl
  | compare a c b =>
    simp only [workings, Term.value?_congr h.left, Term.workings_congr h.left,
      Term.workings_congr h.right]
  | within a range => simp only [workings, Term.workings_congr h]
  | conj items => simp only [workings, workingsUntil_congr items h]
  | disj items => simp only [workings, workingsUntil_congr items h]
  | xor a b =>
    simp only [workings, value?_congr a h.left, workings_congr a h.left, workings_congr b h.right]
  | not a => simp only [workings, workings_congr a h]

theorem workingsUntil_congr {stop : Bool} (items : List Formula)
    (h : Agree ρ σ (mentionsOf items)) :
    workingsUntil ρ stop items = workingsUntil σ stop items := by
  cases items with
  | nil => rfl
  | cons a rest =>
    simp only [workingsUntil, value?_congr a h.left, workings_congr a h.left,
      workingsUntil_congr rest h.right]

end

end Formula

lemma Extent.value?_congr {e : Extent} (h : Agree ρ σ e.mentions) : e.value? ρ = e.value? σ := by
  unfold Extent.value?
  congr 1
  refine List.map_congr_left fun (a, r) hl => ?_
  have eq : ρ (Variable.of e.component a) = σ (Variable.of e.component a) :=
    h _ (List.mem_map_of_mem hl)
  simp only [eq]

lemma Condition.value?_congr {c : Condition} (h : Agree ρ σ c.mentions) :
    c.value? ρ = c.value? σ := by
  unfold Condition.value?
  rw [List.map_congr_left h]

namespace Constraint

mutual

/-- The truth value of a constraint depends on the variables that it mentions. -/
theorem value?_congr (c : Constraint) (h : Agree ρ σ c.mentions) : c.value? ρ = c.value? σ := by
  cases c with
  | const b => rfl
  | formula a => exact Formula.value?_congr a h
  | extent e => exact Extent.value?_congr h
  | placement p => exact Formula.value?_congr p.toFormula h
  | conj items => simp only [value?, values?_congr items h]
  | disj items => simp only [value?, values?_congr items h]
  | xor a b => simp only [value?, value?_congr a h.left, value?_congr b h.right]
  | not a => simp only [value?, value?_congr a h]
  | condition c => exact Condition.value?_congr h

theorem values?_congr (items : List Constraint) (h : Agree ρ σ (mentionsOf items)) :
    values? ρ items = values? σ items := by
  cases items with
  | nil => rfl
  | cons a rest => simp only [values?, value?_congr a h.left, values?_congr rest h.right]

end

mutual

theorem workings_congr (c : Constraint) (h : Agree ρ σ c.mentions) :
    c.workings ρ = c.workings σ := by
  cases c with
  | const b => rfl
  | formula a => exact Formula.workings_congr a h
  | extent e => rfl
  | placement p => exact Formula.workings_congr p.toFormula h
  | conj items => simp only [workings, workingsUntil_congr items h]
  | disj items => simp only [workings, workingsUntil_congr items h]
  | xor a b =>
    simp only [workings, value?_congr a h.left, workings_congr a h.left, workings_congr b h.right]
  | not a => simp only [workings, workings_congr a h]
  | condition c => rfl

theorem workingsUntil_congr {stop : Bool} (items : List Constraint)
    (h : Agree ρ σ (mentionsOf items)) :
    workingsUntil ρ stop items = workingsUntil σ stop items := by
  cases items with
  | nil => rfl
  | cons a rest =>
    simp only [workingsUntil, value?_congr a h.left, workings_congr a h.left,
      workingsUntil_congr rest h.right]

end

variable {boxes boxes' : Name → Option Box} {c : Constraint}

lemma boundedCheck_congr (h : Agree ρ σ c.mentions) : c.boundedCheck ρ = c.boundedCheck σ := by
  have missing : (c.variableList.find? fun v => (ρ v).isNone) =
      c.variableList.find? fun v => (σ v).isNone := by
    refine List.find?_congr fun v hv => ?_
    rw [h v (Distinct.mem_ofList.1 hv)]
  simp only [boundedCheck, check, strictValue, missing, workings_congr c h, value?_congr c h]

/-- The strict evaluation depends on the boxes of the components that a constraint mentions. -/
theorem checkAt_congr (h : ∀ v ∈ c.mentions, boxes v.component = boxes' v.component) :
    c.checkAt boxes = c.checkAt boxes' := by
  have agree : Agree (Assignment.ofBoxes boxes) (Assignment.ofBoxes boxes') c.mentions := by
    intro v hv
    simp only [Assignment.ofBoxes, h v hv]
  have reading : c.readingWorkings boxes = c.readingWorkings boxes' := by
    unfold readingWorkings Assignment.ofBoxesWorkings
    refine List.flatMap_congr fun v hv => ?_
    rw [h v hv]
  rw [checkAt, checkAt, reading, boundedCheck_congr agree]

end Constraint

end SpatialGrammar
