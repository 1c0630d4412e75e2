import Mathlib.Data.List.Induction
import Mathlib.Data.String.Basic
import Mathlib.Tactic.Lemma
import SpatialGrammar.Order.NameMap

/-!
# Looking up names

What `get?` says about the other views of a map: `contains_iff`, `mem_of_get?`, and what an
insertion leaves under any name (`get?_insert`). A map of a list holds the entries of the list
(`get?_ofList`). The names of a map that is built by insertions ascend (`ascending_insert`), so that
`get?` finds all of its entries (`mem_entries_iff`) and tells such maps apart (`ext_of_ascending`).
-/

namespace SpatialGrammar.NameMap

variable {β : Type} {m : NameMap β} {name other : Name} {value : β} {entries : List (Name × β)}

lemma get?_insert (m : NameMap β) (name other : Name) (value : β) :
    (m.insert name value).get? other = if other = name then some value else m.get? other := by
  split
  next same => rw [same, get?_insert_self]
  next ne => rw [get?_insert_of_ne m ne]

lemma contains_iff : m.contains name = true ↔ ∃ value, m.get? name = some value := by
  rw [contains, get?, ← Option.isSome_iff_exists, Option.isSome_map, List.find?_isSome,
    List.any_eq_true]

lemma contains_eq_false_iff : m.contains name = false ↔ m.get? name = none := by
  rw [← Bool.not_eq_true, contains_iff, ← Option.isSome_iff_exists, Option.not_isSome_iff_eq_none]

/-- What is found under a name is one of the entries. -/
lemma mem_of_get? (h : m.get? name = some value) : (name, value) ∈ m.entries := by
  obtain ⟨entry, found, rfl⟩ := Option.map_eq_some_iff.1 h
  have same : entry.1 = name := by simpa using List.find?_some found
  rw [← same]
  exact List.mem_of_find?_eq_some found

lemma mem_values_of_get? (h : m.get? name = some value) : value ∈ m.values :=
  List.mem_map_of_mem (mem_of_get? h)

lemma mem_names : name ∈ m.names ↔ m.contains name = true := by
  simp [names, contains]

lemma contains_insert_eq_false : (m.insert name value).contains other = false ↔
    other ≠ name ∧ m.contains other = false := by
  rw [contains_eq_false_iff, contains_eq_false_iff, get?_insert]
  split <;> simp_all

/-- The value under a name in a map that gives each of some names its value. -/
lemma get?_tabulated (names : List Name) (f : Name → β) (name : Name) :
    (NameMap.mk (names.map fun n => (n, f n))).get? name =
      if name ∈ names then some (f name) else none := by
  induction names with
  | nil => simp [get?]
  | cons n names ih =>
    rw [get?] at ih ⊢
    rw [List.map_cons]
    by_cases same : n = name
    · rw [List.find?_cons_of_pos (by simpa using same), if_pos (by simp [same]), ← same]
      rfl
    · rw [List.find?_cons_of_neg (by simpa using same), ih]
      simp [Ne.symm same]

/-- An entry is found under its name if it shares the name with no other one. -/
lemma get?_of_mem (h : m.names.Nodup) (mem : (name, value) ∈ m.entries) :
    m.get? name = some value := by
  obtain ⟨entries⟩ := m
  simp only [names, get?] at h mem ⊢
  induction entries with
  | nil => cases mem
  | cons entry rest ih =>
    obtain ⟨first, tail⟩ := List.nodup_cons.1 h
    cases List.mem_cons.1 mem with
    | inl head => simp [← head]
    | inr mem =>
      have ne : entry.1 ≠ name := fun same => first (List.mem_map.2 ⟨_, mem, same.symm⟩)
      rw [List.find?_cons_of_neg (by simpa using ne)]
      exact ih tail mem

lemma ofList_concat (entries : List (Name × β)) (entry : Name × β) :
    ofList (entries ++ [entry]) = (ofList entries).insert entry.1 entry.2 := by
  simp only [ofList, List.foldl_concat]

/-- Every entry of a list with different names is found in the map of the list, and nothing else. -/
lemma get?_ofList (h : (entries.map (·.1)).Nodup) :
    (ofList entries).get? name = some value ↔ (name, value) ∈ entries := by
  induction entries using List.reverseRecOn with
  | nil => simp [ofList]
  | append_singleton entries entry ih =>
    rw [List.map_append, List.nodup_append] at h
    obtain ⟨distinct, -, apart⟩ := h
    rw [ofList_concat, get?_insert, List.mem_append, List.mem_singleton]
    split
    next same =>
      have new : (name, value) ∉ entries := fun mem =>
        apart name (List.mem_map_of_mem mem) entry.1 (List.mem_singleton_self _) same
      subst same
      simp [new, Prod.ext_iff, eq_comm]
    next other =>
      rw [ih distinct]
      simp [Prod.ext_iff, other]

section ascending

/-- The names of the entries ascend. -/
def Ascending (m : NameMap β) : Prop := m.names.Pairwise (· < ·)

lemma ascending_empty : (empty : NameMap β).Ascending := .nil

lemma mem_names_insertEntry : other ∈ (insertEntry name value entries).map (·.1) ↔
    other = name ∨ other ∈ entries.map (·.1) := by
  induction entries with
  | nil => simp [insertEntry]
  | cons entry rest ih =>
    rw [insertEntry]
    split
    next same => simp [same]
    next =>
      split
      next => simp
      next => rw [List.map_cons, List.mem_cons, ih, List.map_cons, List.mem_cons, or_left_comm]

/-- An insertion keeps the names in ascending order. -/
theorem ascending_insert (h : m.Ascending) (name : Name) (value : β) :
    (m.insert name value).Ascending := by
  have all : ∀ entries : List (Name × β), (entries.map (·.1)).Pairwise (· < ·) →
      ((insertEntry name value entries).map (·.1)).Pairwise (· < ·) := by
    intro entries
    induction entries with
    | nil => simp [insertEntry]
    | cons entry rest ih =>
      intro h
      obtain ⟨first, tail⟩ := List.pairwise_cons.1 h
      rw [insertEntry]
      split
      next same => simpa only [List.map_cons, same] using h
      next ne =>
        split
        next before =>
          refine .cons (List.forall_mem_cons.2 ⟨before, fun other mem => ?_⟩) h
          exact before.trans (first other mem)
        next after =>
          refine .cons (fun other mem => ?_) (ih tail)
          cases mem_names_insertEntry.1 mem with
          | inl same => exact same ▸ lt_of_le_of_ne (not_lt.1 after) (Ne.symm ne)
          | inr mem => exact first other mem
  exact all m.entries h

/-- The entries of a map with ascending names are what is found under the names. -/
lemma mem_entries_iff (h : m.Ascending) : (name, value) ∈ m.entries ↔ m.get? name = some value := by
  refine ⟨fun mem => ?_, mem_of_get?⟩
  exact get?_of_mem (h.imp fun lt => lt.ne) mem

/-- Maps with ascending names are equal if the same is found in them. -/
theorem ext_of_ascending {m' : NameMap β} (h : m.Ascending) (h' : m'.Ascending)
    (same : ∀ name, m.get? name = m'.get? name) : m = m' := by
  have sorted : m.entries.Pairwise fun a b => a.1 < b.1 := List.pairwise_map.1 h
  have sorted' : m'.entries.Pairwise fun a b => a.1 < b.1 := List.pairwise_map.1 h'
  have perm : m.entries.Perm m'.entries := by
    rw [List.perm_ext_iff_of_nodup (sorted.imp fun lt eq => lt.ne (congrArg Prod.fst eq))
      (sorted'.imp fun lt eq => lt.ne (congrArg Prod.fst eq))]
    rintro ⟨name, value⟩
    rw [mem_entries_iff h, mem_entries_iff h', same]
  have entries : m.entries = m'.entries :=
    perm.eq_of_pairwise (fun a b _ _ lt gt => absurd gt lt.asymm) sorted sorted'
  cases m
  cases m'
  exact congrArg NameMap.mk entries

end ascending

end SpatialGrammar.NameMap
