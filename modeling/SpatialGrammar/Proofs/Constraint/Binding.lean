import Mathlib
import SpatialGrammar.Grammar.Basic
import SpatialGrammar.Proofs.Constraint.Namespace

/-!
# The names under which constraints are bound

A formula mentions boxes by their names, an extent or a placement by words that stand for them. Once
a constraint is bound, the name of its component is read as such a word by the one kind and as it is
by the other, which makes a difference for the words `this` and `parent`. Main statement:
`boundAs_renames_iff`, for which names all kinds of constraints are bound alike.
-/

namespace SpatialGrammar

variable {name : Name}

lemma Name.canonical_eq_self : name.canonical = name ↔ name ≠ "this" ∧ name ≠ "parent" := by
  unfold canonical
  constructor
  · intro same
    split at same
    next eq => exact absurd (same.trans eq) (by decide)
    next not_this =>
      split at same
      next eq => exact absurd (same.trans eq) (by decide)
      next not_parent => exact ⟨not_this, not_parent⟩
  · intro ⟨not_this, not_parent⟩
    rw [if_neg not_this, if_neg not_parent]

section kinds

/-- A box that is bound under a name is the one that the name stands for as a word. -/
lemma Renaming.canonical_binding (name word : Name) :
    (binding name word).canonical = (binding name.canonical word).canonical := by
  unfold binding
  split
  · exact name.canonical_canonical.symm
  · rfl

lemma Variable.of_binding (name word : Name) (a : Attribute) :
    Variable.of (Renaming.binding name word) a =
      Variable.of (Renaming.binding name.canonical word) a :=
  congrArg (Variable.mk · a) (Renaming.canonical_binding name word)

lemma Extent.mentions_binding (e : Extent) (name : Name) :
    (e.rename (Renaming.binding name)).mentions =
      e.mentions.map (Variable.rename (Renaming.binding name.canonical)) := by
  have canonical := Renaming.isCanonical_binding name.canonical_canonical
  rw [← e.mentions_rename canonical]
  exact List.map_congr_left fun limit _ => Variable.of_binding name e.component.canonical limit.1

lemma Placement.mentions_binding (p : Placement) (name : Name) :
    (p.rename (Renaming.binding name)).mentions =
      p.mentions.map (Variable.rename (Renaming.binding name.canonical)) := by
  have canonical := Renaming.isCanonical_binding name.canonical_canonical
  -- an edge is the variable of a word, so that only what the name stands for counts
  have edge (word : Name) (s : Side) : edgeTerm (Renaming.binding name word) s =
      edgeTerm (Renaming.binding name.canonical word) s :=
    congrArg Term.var (Variable.of_binding name word (Attribute.ofSide s))
  have formula : (p.rename (Renaming.binding name)).toFormula =
      (p.rename (Renaming.binding name.canonical)).toFormula := by
    simp only [toFormula, rename, edge]
  rw [mentions, formula, toFormula_rename canonical, Formula.mentions_mapVariables]
  rfl

end kinds

namespace Constraint

variable {c : Constraint}

/-- A constraint is in the namespace of a component: it mentions its own box and the parent only. -/
def IsLocal (c : Constraint) : Prop :=
  ∀ v ∈ c.variableList, v.component = Name.own ∨ v.component = Name.parent

instance : Decidable c.IsLocal :=
  inferInstanceAs (Decidable (∀ v ∈ c.variableList,
    v.component = Name.own ∨ v.component = Name.parent))

/-- A constraint without conditions of the user is bound by renaming what it mentions, unless the
name of the component is read as another one. -/
lemma mem_variableList_boundAs (plain : c.conditions = []) (canonical : name.canonical = name)
    {v : Variable} : v ∈ (c.boundAs name).variableList ↔
      ∃ w ∈ c.variableList, w.rename (Renaming.binding name) = v := by
  have follow : ∀ k ∈ c.conditions, k.Follows := by
    rw [plain]
    exact List.forall_mem_nil _
  have renamed := c.mentions_rename (Renaming.isCanonical_binding canonical) follow
  simp only [variableList, Variable.sorted, Distinct.mem_ofList, boundAs, renamed, List.mem_map]

/-- For which names constraints of all kinds are bound alike, and what becomes of the variables of
each kind in general. -/
theorem boundAs_renames_iff (name : Name) :
    ((∀ c : Constraint, c.conditions = [] → c.IsLocal → ∀ v,
        v ∈ (c.boundAs name).variableList ↔
          ∃ w ∈ c.variableList, w.rename (Renaming.binding name) = v) ↔
      name ≠ "this" ∧ name ≠ "parent") ∧
    (∀ a, ((formula a).boundAs name).mentions =
      a.mentions.map (Variable.rename (Renaming.binding name))) ∧
    (∀ e, ((extent e).boundAs name).mentions =
      e.mentions.map (Variable.rename (Renaming.binding name.canonical))) ∧
    (∀ p, ((placement p).boundAs name).mentions =
      p.mentions.map (Variable.rename (Renaming.binding name.canonical))) := by
  refine ⟨⟨fun alike => ?_, fun free c plain _ v => ?_⟩, fun a => a.mentions_mapVariables _,
    fun e => e.mentions_binding name, fun p => p.mentions_binding name⟩
  · -- an extent tells a name from the word that it is read as
    let size : Constraint := .extent (.ofSizes (some (Interval.exact 1)) none)
    have bound : (size.boundAs name).variableList = [⟨name.canonical, .width⟩] := rfl
    have found := (alike size rfl (by decide) ⟨name.canonical, .width⟩).1
      (bound ▸ List.mem_singleton_self _)
    obtain ⟨w, mem, eq⟩ := found
    obtain rfl : w = ⟨Name.own, .width⟩ := List.mem_singleton.1 mem
    exact Name.canonical_eq_self.1 (Variable.mk.inj eq).1.symm
  · exact mem_variableList_boundAs plain (Name.canonical_eq_self.2 free)

/-- A formula and a placement are bound alike as a digit. -/
theorem boundAs_renames_digit :
    let c : Constraint := .conj [.formula (.compare (.var ⟨Name.own, .width⟩) .eq (.number 3)),
      .placement (.ofSides { left := some (Interval.exact 0) } {} false)]
    c.conditions = [] ∧ c.IsLocal ∧ ∀ v, v ∈ (c.boundAs "digit").variableList ↔
      ∃ w ∈ c.variableList, w.rename (Renaming.binding "digit") = v := by
  intro c
  have isLocal : c.IsLocal := by decide
  have free : "digit" ≠ "this" ∧ "digit" ≠ "parent" := by decide
  exact ⟨rfl, isLocal, (boundAs_renames_iff "digit").1.2 free c rfl isLocal⟩

/-- Under the name `this`, a formula and an extent with the same variables are bound to different
boxes. -/
theorem boundAs_this :
    let wide : Constraint := .formula (.compare (.var ⟨Name.own, .width⟩) .eq (.number 3))
    let size : Constraint := .extent (.ofSizes (some (Interval.exact 3)) none)
    let row : Pattern ℚ := {
      name := "row", kind := .general,
      components :=
        [{ name := "this", pattern := "digit", constraints := [wide, size], weight := 1 }] }
    wide.variableList = [⟨Name.own, .width⟩] ∧ size.variableList = [⟨Name.own, .width⟩] ∧
      (wide.boundAs "this").variableList = [⟨"this", .width⟩] ∧
      (size.boundAs "this").variableList = [⟨Name.own, .width⟩] ∧
      (Grammar.build "row" [{ name := "digit", kind := .cell "d" }, row]
        ⟨[("d", ["[0-9]"])]⟩).isOk = true := by
  refine ⟨?_, ?_, ?_, ?_, ?_⟩
  · rfl
  · rfl
  · rfl
  · rfl
  · cbv

end Constraint

end SpatialGrammar
