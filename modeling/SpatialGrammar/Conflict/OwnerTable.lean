/-!
# Owner tables

Which elements have which components, turned round: each component comes once, with the elements
that have it. An element comes as often as it has the component.
-/

namespace SpatialGrammar

/-- Components, each of them once, with the elements that have them. -/
structure OwnerTable (κ : Type) where
  entries : List (κ × List Nat)
  distinct : (entries.map (·.1)).Nodup

namespace OwnerTable

variable {κ : Type}

/-- The table without components. -/
def empty : OwnerTable κ := ⟨[], List.nodup_nil⟩

instance : Inhabited (OwnerTable κ) := ⟨empty⟩

/-- The elements that have a component in common, for each component. -/
def groups (t : OwnerTable κ) : List (List Nat) := t.entries.map (·.2)

variable [DecidableEq κ] {c d : κ} {i : Nat} {entries : List (κ × List Nat)}

/-- Enters an element behind the other ones that have a component. -/
def addEntry (c : κ) (i : Nat) : List (κ × List Nat) → List (κ × List Nat)
  | [] => [(c, [i])]
  | (d, is) :: rest => if d = c then (d, is ++ [i]) :: rest else (d, is) :: addEntry c i rest

theorem mem_keys_addEntry :
    d ∈ (addEntry c i entries).map (·.1) ↔ d = c ∨ d ∈ entries.map (·.1) := by
  induction entries with
  | nil => simp [addEntry]
  | cons entry rest ih =>
    rw [addEntry]
    split
    next same =>
      simp only [List.map_cons, List.mem_cons, same]
      exact ⟨.inr, fun h => h.elim .inl id⟩
    next => simp only [List.map_cons, List.mem_cons, ih, or_left_comm]

theorem nodup_keys_addEntry (h : (entries.map (·.1)).Nodup) :
    ((addEntry c i entries).map (·.1)).Nodup := by
  induction entries with
  | nil => simp [addEntry]
  | cons entry rest ih =>
    rw [List.map_cons, List.nodup_cons] at h
    rw [addEntry]
    split
    next => exact List.nodup_cons.2 h
    next other =>
      refine List.nodup_cons.2 ⟨fun mem => ?_, ih h.2⟩
      exact (mem_keys_addEntry.1 mem).elim other h.1

/-- Enters an element for a component. -/
def add (t : OwnerTable κ) (c : κ) (i : Nat) : OwnerTable κ :=
  ⟨addEntry c i t.entries, nodup_keys_addEntry t.distinct⟩

/-- The table of the elements `0`, `1`, …, given the components of each of them. -/
def ofComponents (components : List (List κ)) : OwnerTable κ :=
  components.zipIdx.foldl (fun t (cs, i) => cs.foldl (fun t c => t.add c i) t) empty

end OwnerTable

end SpatialGrammar
