import SpatialGrammar.Grammar.Basic
import SpatialGrammar.Proofs.Grammar.Dependency
import SpatialGrammar.Proofs.Order.NameMap

/-!
# Relations between patterns

How patterns extend each other and depend on each other, told by the patterns alone, and what the
tables of a grammar say about it. Main statements: `mem_ancestorsOf`, `mem_expand`,
`mem_expandedDependencies` and `mem_reachable`, the computed lists of names are those of the
relations.
-/

namespace SpatialGrammar.Grammar

open Dependency (Leads chainLengths)
open Relation (ReflTransGen TransGen)

variable {α : Type}

section relations

variable (patterns : List (Pattern α))

/-- A pattern names another one among its bases. -/
def Extends (name base : Name) : Prop := ∃ p ∈ patterns, p.name = name ∧ base ∈ p.bases

/-- A pattern is made of matches of another one, or of a pattern that the other one extends,
directly or through further patterns. -/
def DependsOn (name other : Name) : Prop :=
  ∃ p ∈ patterns, p.name = name ∧ ∃ d ∈ p.dependencies, ReflTransGen (Extends patterns) other d

/-- A pattern contributes to the root: the root, or a pattern that extends the root, depends on it
directly or through others, or is that pattern. -/
def Contributes (root name : Name) : Prop :=
  ∃ first, ReflTransGen (Extends patterns) first root ∧ ReflTransGen (DependsOn patterns) first name

/-- There is a pattern with a name. -/
def Defines (name : Name) : Prop := ∃ p ∈ patterns, p.name = name

/-- All names that patterns refer to are those of patterns. -/
def Resolved : Prop := ∀ p ∈ patterns, ∀ name ∈ p.dependencies ++ p.bases, Defines patterns name

/-- A table holds patterns under their names. -/
structure Tabulates (table : NameMap (Pattern α)) : Prop where
  ascending : table.Ascending
  get?_eq_some : ∀ {name p}, table.get? name = some p ↔ p ∈ patterns ∧ p.name = name

end relations

variable {patterns rest : List (Pattern α)} {table out : NameMap (Pattern α)} {p : Pattern α}
variable {name other root x y : Name} {ancestors : NameMap (List Name)}

lemma DependsOn.trans_extends (h : DependsOn patterns x y)
    (path : ReflTransGen (Extends patterns) name y) : DependsOn patterns x name := by
  obtain ⟨p, hp, eq, d, hd, path'⟩ := h
  exact ⟨p, hp, eq, d, hd, path.trans path'⟩

lemma Contributes.trans (h : Contributes patterns root x)
    (path : ReflTransGen (DependsOn patterns) x y) : Contributes patterns root y := by
  obtain ⟨first, start, path'⟩ := h
  exact ⟨first, start, path'.trans path⟩

/-- Patterns that extend a contributing pattern contribute, too. -/
lemma Contributes.trans_extends (h : Contributes patterns root x)
    (path : ReflTransGen (Extends patterns) y x) : Contributes patterns root y := by
  obtain ⟨first, start, path'⟩ := h
  cases path' with
  | refl => exact ⟨y, path.trans start, .refl⟩
  | tail path' step => exact ⟨first, start, path'.tail (step.trans_extends path)⟩

lemma Defines.of_extends (h : ReflTransGen (Extends patterns) x y) (defined : Defines patterns y) :
    Defines patterns x := by
  cases h using ReflTransGen.head_induction_on with
  | refl => exact defined
  | head step _ _ =>
    obtain ⟨p, hp, eq, -⟩ := step
    exact ⟨p, hp, eq⟩

section resolved

variable (resolved : Resolved patterns)

include resolved

lemma Resolved.base (h : Extends patterns x y) : Defines patterns y := by
  obtain ⟨p, hp, -, mem⟩ := h
  exact resolved p hp y (List.mem_append_right _ mem)

lemma Resolved.dependency (h : DependsOn patterns x y) : Defines patterns y := by
  obtain ⟨p, hp, -, d, hd, path⟩ := h
  exact .of_extends path (resolved p hp d (List.mem_append_left _ hd))

end resolved

section collect

lemma tabulates_empty : Tabulates ([] : List (Pattern α)) NameMap.empty :=
  ⟨NameMap.ascending_empty, by simp⟩

lemma Tabulates.insert (h : Tabulates patterns table) (new : table.contains p.name = false) :
    Tabulates (patterns ++ [p]) (table.insert p.name p) := by
  refine ⟨NameMap.ascending_insert h.ascending _ _, fun {name q} => ?_⟩
  rw [NameMap.get?_insert, List.mem_append, List.mem_singleton]
  split
  next same =>
    subst same
    constructor
    · intro eq
      obtain rfl := Option.some.inj eq
      exact ⟨.inr rfl, rfl⟩
    · rintro ⟨mem | rfl, eq⟩
      · rw [NameMap.contains_eq_false_iff, ← eq] at new
        exact absurd (h.get?_eq_some.2 ⟨mem, rfl⟩) (by simp [new])
      · rfl
  next ne =>
    rw [h.get?_eq_some]
    constructor
    · exact fun ⟨mem, eq⟩ => ⟨.inl mem, eq⟩
    · rintro ⟨mem | rfl, eq⟩
      · exact ⟨mem, eq⟩
      · exact absurd eq.symm ne

/-- Collected patterns are held under their names. -/
lemma collect_tabulates (h : collect rest table = .ok out) (before : Tabulates patterns table) :
    Tabulates (patterns ++ rest) out := by
  induction rest generalizing patterns table with
  | nil =>
    rw [collect, Except.ok.injEq] at h
    rw [← h, List.append_nil]
    exact before
  | cons p rest ih =>
    rw [collect] at h
    split at h
    · cases h
    next new =>
      rw [← List.singleton_append, ← List.append_assoc]
      exact ih h (before.insert (Bool.eq_false_iff.2 new))

/-- Patterns can be collected if their names are different. -/
lemma collect_isOk_iff : (∃ out, collect rest table = .ok out) ↔
    (rest.map (·.name)).Nodup ∧ ∀ p ∈ rest, table.contains p.name = false := by
  induction rest generalizing table with
  | nil => simp [collect]
  | cons p rest ih =>
    rw [collect, List.map_cons, List.nodup_cons, List.forall_mem_cons]
    split
    next old => simp [old]
    next new =>
      rw [ih]
      simp only [NameMap.contains_insert_eq_false, Bool.eq_false_iff.2 new, true_and]
      constructor
      · rintro ⟨nodup, out⟩
        refine ⟨⟨fun mem => ?_, nodup⟩, fun q hq => (out q hq).2⟩
        obtain ⟨q, hq, eq⟩ := List.mem_map.1 mem
        exact (out q hq).1 eq
      · rintro ⟨⟨away, nodup⟩, out⟩
        refine ⟨nodup, fun q hq => ⟨fun eq => away ?_, out q hq⟩⟩
        exact eq ▸ List.mem_map_of_mem hq

/-- Tables of the same patterns are equal. -/
lemma Tabulates.unique (h : Tabulates patterns table) (h' : Tabulates rest out)
    (same : ∀ p, p ∈ patterns ↔ p ∈ rest) : table = out := by
  refine NameMap.ext_of_ascending h.ascending h'.ascending fun name => Option.ext fun p => ?_
  rw [h.get?_eq_some, h'.get?_eq_some, same]

/-- The order of the patterns does not matter to what is collected. -/
lemma collect_perm (h : patterns.Perm rest) (collected : collect patterns NameMap.empty = .ok table) :
    collect rest NameMap.empty = .ok table := by
  obtain ⟨distinct, -⟩ := collect_isOk_iff.1 ⟨table, collected⟩
  obtain ⟨out, collected'⟩ : ∃ out, collect rest NameMap.empty = .ok out :=
    collect_isOk_iff.2 ⟨(h.map _).nodup_iff.1 distinct, fun _ _ => rfl⟩
  have tab := collect_tabulates collected tabulates_empty
  have tab' := collect_tabulates collected' tabulates_empty
  rw [collected', tab.unique tab' fun p => h.mem_iff]

end collect

section tables

variable (tab : Tabulates patterns table)

include tab

lemma Tabulates.contains_iff : table.contains name = true ↔ Defines patterns name := by
  simp only [NameMap.contains_iff, tab.get?_eq_some, Defines]

lemma Tabulates.mem_names : name ∈ table.names ↔ Defines patterns name := by
  rw [NameMap.mem_names, tab.contains_iff]

lemma Tabulates.mem_values : p ∈ table.values ↔ p ∈ patterns := by
  constructor
  · intro mem
    obtain ⟨⟨name, q⟩, entry, rfl⟩ := List.mem_map.1 mem
    exact (tab.get?_eq_some.1 ((NameMap.mem_entries_iff tab.ascending).1 entry)).1
  · exact fun mem => NameMap.mem_values_of_get? (tab.get?_eq_some.2 ⟨mem, rfl⟩)

lemma Tabulates.leads_basesOf : Leads (basesOf table) = Extends patterns := by
  funext name base
  apply propext
  constructor
  · intro mem
    unfold Leads basesOf at mem
    cases found : table.get? name with
    | none => simp [found] at mem
    | some p =>
      obtain ⟨hp, eq⟩ := tab.get?_eq_some.1 found
      exact ⟨p, hp, eq, by simpa [found] using mem⟩
  · rintro ⟨p, hp, eq, mem⟩
    simpa [Leads, basesOf, tab.get?_eq_some.2 ⟨hp, eq⟩] using mem

variable (resolved : Resolved patterns)

include resolved

/-- The ancestors of a pattern are its bases, direct and indirect. -/
theorem Tabulates.mem_ancestorsOf :
    other ∈ ancestorsOf table name ↔ TransGen (Extends patterns) name other := by
  have step : ∀ {x y}, y ∈ basesOf table x ↔ Extends patterns x y := fun {x y} => by
    rw [← tab.leads_basesOf]
    rfl
  rw [ancestorsOf, Dependency.mem_closure table.names (Dependency.sortedLT_sorted _),
    tab.leads_basesOf, TransGen.head'_iff]
  · simp only [Dependency.mem_sorted, step]
  · intro x hx
    exact tab.mem_names.2 (resolved.base (step.1 (Dependency.mem_sorted.1 hx)))
  · exact fun x _ y hy => tab.mem_names.2 (resolved.base (step.1 hy))
  · exact Nat.le_add_right _ _

/-- The table of ancestors exists unless a pattern is its own base, and holds the ancestors of all
patterns. -/
theorem Tabulates.ancestorTable_eq_ok : ancestorTable table = .ok ancestors ↔
    (∀ name, ¬ TransGen (Extends patterns) name name) ∧
      ancestors = ⟨table.names.map fun name => (name, ancestorsOf table name)⟩ := by
  have acyclic : (table.names.find? fun name => (ancestorsOf table name).contains name) = none ↔
      ∀ name, ¬ TransGen (Extends patterns) name name := by
    rw [List.find?_eq_none]
    simp only [List.contains_iff_mem, tab.mem_ancestorsOf resolved]
    constructor
    · intro none name cycle
      obtain ⟨base, step, -⟩ := TransGen.head'_iff.1 cycle
      obtain ⟨p, hp, eq, -⟩ := step
      exact none name (tab.mem_names.2 ⟨p, hp, eq⟩) cycle
    · exact fun none name _ => none name
  rw [ancestorTable]
  split
  next name found =>
    refine ⟨nofun, fun h => ?_⟩
    rw [acyclic.2 h.1] at found
    cases found
  next none =>
    rw [Except.ok.injEq, eq_comm]
    exact (and_iff_right (acyclic.1 none)).symm

variable (made : ancestorTable table = .ok ancestors)

include made

lemma Tabulates.mem_ancestorNames :
    other ∈ (ancestors.get? name).getD [] ↔ TransGen (Extends patterns) name other := by
  rw [((tab.ancestorTable_eq_ok resolved).1 made).2, NameMap.get?_tabulated]
  split
  next => rw [Option.getD_some, tab.mem_ancestorsOf resolved]
  next undefined =>
    refine ⟨nofun, fun path => absurd ?_ undefined⟩
    obtain ⟨_, ⟨p, hp, eq, -⟩, -⟩ := TransGen.head'_iff.1 path
    exact tab.mem_names.2 ⟨p, hp, eq⟩

/-- A pattern and its ancestors are different. -/
lemma Tabulates.nodup_ancestorNames : (name :: (ancestors.get? name).getD []).Nodup := by
  obtain ⟨acyclic, eq⟩ := (tab.ancestorTable_eq_ok resolved).1 made
  refine List.nodup_cons.2 ⟨fun mem => ?_, ?_⟩
  · exact acyclic name ((tab.mem_ancestorNames resolved made).1 mem)
  · rw [eq, NameMap.get?_tabulated]
    split
    next => exact (Dependency.sortedLT_closure (Dependency.sortedLT_sorted _)).nodup
    next => exact List.nodup_nil

/-- A name expands to itself and to the patterns that extend it, directly or through others. -/
theorem Tabulates.mem_expand :
    x ∈ expand ancestors name ↔ ReflTransGen (Extends patterns) x name := by
  rw [((tab.ancestorTable_eq_ok resolved).1 made).2, Relation.reflTransGen_iff_eq_or_transGen]
  simp only [expand, NameMap.toList, List.filter_map, List.map_map, List.mem_cons, List.mem_map,
    List.mem_filter, Function.comp_apply, List.contains_iff_mem, tab.mem_ancestorsOf resolved,
    exists_eq_right, eq_comm (a := name)]
  refine or_congr_right (and_iff_right_of_imp fun path => ?_)
  obtain ⟨_, ⟨p, hp, eq, -⟩, -⟩ := TransGen.head'_iff.1 path
  exact tab.mem_names.2 ⟨p, hp, eq⟩

/-- The expanded dependencies of a pattern are what it depends on. -/
theorem Tabulates.mem_expandedDependencies :
    y ∈ expandedDependencies table ancestors x ↔ DependsOn patterns x y := by
  rw [expandedDependencies, Dependency.mem_sorted, List.mem_flatMap]
  simp only [tab.mem_expand resolved made]
  constructor
  · rintro ⟨d, mem, path⟩
    cases found : table.get? x with
    | none => simp [found] at mem
    | some p =>
      obtain ⟨hp, eq⟩ := tab.get?_eq_some.1 found
      exact ⟨p, hp, eq, d, by simpa [found] using mem, path⟩
  · rintro ⟨p, hp, eq, d, hd, path⟩
    exact ⟨d, by simpa [tab.get?_eq_some.2 ⟨hp, eq⟩] using hd, path⟩

lemma Tabulates.leads_expandedDependencies :
    Leads (expandedDependencies table ancestors) = DependsOn patterns := by
  funext x y
  exact propext (tab.mem_expandedDependencies resolved made)

/-- What is reachable from the root is what contributes to it. -/
theorem Tabulates.mem_reachable (rooted : Defines patterns root) :
    name ∈ reachable table ancestors root ↔ Contributes patterns root name := by
  rw [reachable, Dependency.mem_closure table.names (Dependency.sortedLT_sorted _),
    tab.leads_expandedDependencies resolved made]
  · simp only [Dependency.mem_sorted, tab.mem_expand resolved made]
    rfl
  · intro x hx
    have path := (tab.mem_expand resolved made).1 (Dependency.mem_sorted.1 hx)
    exact tab.mem_names.2 (.of_extends path rooted)
  · intro x _ y hy
    exact tab.mem_names.2 (resolved.dependency ((tab.mem_expandedDependencies resolved made).1 hy))
  · exact Nat.le_add_right _ _

end tables

end SpatialGrammar.Grammar
