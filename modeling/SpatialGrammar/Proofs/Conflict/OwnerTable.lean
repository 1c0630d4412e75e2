import Mathlib.Data.List.Nodup
import SpatialGrammar.Conflict.OwnerTable

/-!
# The owners of components

Who is entered in an owner table. Main statements: `owns_ofComponents`, the owners of a component
are the elements that have it, and `exists_group_iff`, two elements come in the same group iff they
own a component in common.
-/

namespace SpatialGrammar.OwnerTable

variable {κ : Type} {c d : κ} {i j k : Nat} {is : List Nat} {entries : List (κ × List Nat)}
variable {t : OwnerTable κ}

/-- An element is entered for a component. -/
def Enters (entries : List (κ × List Nat)) (c : κ) (i : Nat) : Prop :=
  ∃ is, (c, is) ∈ entries ∧ i ∈ is

/-- An element is entered for a component of a table. -/
def Owns (t : OwnerTable κ) (c : κ) (i : Nat) : Prop := Enters t.entries c i

lemma enters_nil : ¬ Enters [] c i := by simp [Enters]

lemma enters_cons :
    Enters ((d, is) :: entries) c i ↔ (c = d ∧ i ∈ is) ∨ Enters entries c i := by
  simp only [Enters, List.mem_cons, Prod.mk.injEq, or_and_right, exists_or, and_assoc,
    exists_and_left, exists_eq_left]

/-- Two elements come in the same group iff they own a component in common. -/
lemma exists_group_iff :
    (∃ group ∈ t.groups, i ∈ group ∧ j ∈ group) ↔ ∃ c, t.Owns c i ∧ t.Owns c j := by
  simp only [groups, List.mem_map, Prod.exists, exists_eq_right]
  constructor
  · rintro ⟨is, ⟨c, mem⟩, hi, hj⟩
    exact ⟨c, ⟨is, mem, hi⟩, ⟨is, mem, hj⟩⟩
  · rintro ⟨c, ⟨is, mem, hi⟩, ⟨js, mem', hj⟩⟩
    -- a component comes once, so that both elements are entered at the same place
    have same : (c, js) = (c, is) := List.inj_on_of_nodup_map t.distinct mem' mem rfl
    obtain ⟨-, rfl⟩ := Prod.mk.inj same
    exact ⟨js, ⟨c, mem⟩, hi, hj⟩

variable [DecidableEq κ] {cs : List κ} {components : List (List κ)}

lemma enters_addEntry :
    Enters (addEntry d j entries) c i ↔ (c = d ∧ i = j) ∨ Enters entries c i := by
  induction entries with
  | nil => rw [addEntry, enters_cons, List.mem_singleton]
  | cons entry rest ih =>
    obtain ⟨e, is⟩ := entry
    rw [addEntry, enters_cons]
    split
    next same =>
      rw [enters_cons, List.mem_append, List.mem_singleton, same, and_or_left, or_assoc,
        or_left_comm]
    next => rw [enters_cons, ih, or_left_comm]

lemma owns_add : (t.add d j).Owns c i ↔ (c = d ∧ i = j) ∨ t.Owns c i := enters_addEntry

lemma owns_foldl_add :
    (cs.foldl (fun t c => t.add c j) t).Owns c i ↔ (c ∈ cs ∧ i = j) ∨ t.Owns c i := by
  induction cs generalizing t with
  | nil => simp
  | cons d cs ih =>
    rw [List.foldl_cons, ih, owns_add, List.mem_cons, or_and_right, or_left_comm, or_assoc]

lemma owns_foldl_components (numbered : List (List κ × Nat)) :
    (numbered.foldl (fun t (cs, j) => cs.foldl (fun t c => t.add c j) t) t).Owns c i ↔
      (∃ cs, (cs, i) ∈ numbered ∧ c ∈ cs) ∨ t.Owns c i := by
  induction numbered generalizing t with
  | nil => simp
  | cons entry rest ih =>
    obtain ⟨cs, j⟩ := entry
    rw [List.foldl_cons, ih, owns_foldl_add]
    simp only [List.mem_cons, Prod.mk.injEq, or_and_right, exists_or, and_assoc, exists_eq_left]
    rw [or_left_comm, or_assoc, and_comm]

/-- The owners of a component are the elements that have it. -/
lemma owns_ofComponents : (ofComponents components).Owns c i ↔ ∃ cs ∈ components[i]?, c ∈ cs := by
  rw [ofComponents, owns_foldl_components]
  simp only [List.mk_mem_zipIdx_iff_getElem?, Option.mem_def, or_iff_left_iff_imp]
  exact fun h => absurd h enters_nil

end SpatialGrammar.OwnerTable
