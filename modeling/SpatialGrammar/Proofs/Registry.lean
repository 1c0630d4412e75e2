import Mathlib.Data.List.Nodup
import SpatialGrammar.Proofs.Order.NameMap
import SpatialGrammar.Registry

/-!
# What a registry holds under a name

The view `named` of a registry. Main statements: `named_register`, a registration adds the match at
the end of what is under each of its names and changes nothing else, and `namedIn_sublist`, a region
only restricts what is under a name.
-/

namespace SpatialGrammar.Registry

variable {α : Type} {r : Registry α} {m : Match α} {name : Name} {also names : List Name}
variable {position : Nat}

/-- The positions in the index of names are those of matches. -/
def Indexed (r : Registry α) : Prop := ∀ name, ∀ i ∈ r.positions name, i < r.found.size

lemma indexed_empty : (empty : Registry α).Indexed := fun _ _ mem => nomatch mem

/-- A position is added to the index once for each time that a name is given. -/
lemma getD_foldl_addName (index : NameMap (List Nat)) :
    ((names.foldl (addName position) index).get? name).getD [] =
      List.replicate (names.count name) position ++ (index.get? name).getD [] := by
  induction names generalizing index with
  | nil => rfl
  | cons first rest ih =>
    rw [List.foldl_cons, ih, addName, NameMap.get?_insert, List.count_cons]
    by_cases same : name = first
    · rw [if_pos same, if_pos (by simp [same]), Option.getD_some, same, List.append_cons,
        ← List.replicate_succ']
    · rw [if_neg same, if_neg (by simpa using Ne.symm same), Nat.add_zero]

lemma positions_register : (r.register m also).positions name =
    r.positions name ++ List.replicate ((m.pattern :: also).count name) r.found.size := by
  rw [positions, register, getD_foldl_addName, List.reverse_append, List.reverse_replicate]
  rfl

lemma Indexed.register (h : r.Indexed) (m : Match α) (also : List Name) :
    (r.register m also).Indexed := by
  intro name i mem
  have size : (r.register m also).found.size = r.found.size + 1 := Array.size_push m
  rw [positions_register, List.mem_append] at mem
  cases mem with
  | inl old =>
    have bound := h name i old
    omega
  | inr new =>
    have eq := List.eq_of_mem_replicate new
    omega

/-- A registration adds the match to what is under each of its names. -/
theorem named_register (h : r.Indexed) (nodup : (m.pattern :: also).Nodup) :
    (r.register m also).named name =
      r.named name ++ if name ∈ m.pattern :: also then [m] else [] := by
  have old : (r.register m also).atPositions (r.positions name) = r.named name := by
    refine List.filterMap_congr fun i mem => ?_
    have lt := h name i mem
    simp [register, Array.getElem?_push_lt lt, lt]
  have new : (r.register m also).atPositions [r.found.size] = [m] := by
    simp [atPositions, register]
  rw [named, positions_register, atPositions, List.filterMap_append]
  refine congr_arg₂ _ old ?_
  split
  next mem =>
    rw [List.count_eq_one_of_mem nodup mem]
    exact new
  next out =>
    rw [List.count_eq_zero_of_not_mem out]
    rfl

lemma nearby_sublist (r : Registry α) (name : Name) (region : Region) :
    (r.nearby name region).Sublist (r.positions name) := by
  unfold nearby
  split
  next => exact .refl _
  next => exact List.filter_sublist

/-- Within a region there is a part of what is under a name. -/
lemma namedIn_sublist (r : Registry α) (name : Name) (region : Option Region) :
    (r.namedIn name region).Sublist (r.named name) := by
  cases region with
  | none => exact .refl _
  | some region => exact List.filter_sublist.trans ((r.nearby_sublist name region).filterMap _)

/-- Within a region there are only matches that may lie in it. -/
lemma mayContain_of_mem_namedIn {region : Region} (h : m ∈ r.namedIn name (some region)) :
    region.mayContain m.box = true :=
  (List.mem_filter.1 h).2

end SpatialGrammar.Registry
