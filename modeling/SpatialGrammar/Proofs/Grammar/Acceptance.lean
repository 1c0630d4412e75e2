import SpatialGrammar.Proofs.Grammar.Relations
import SpatialGrammar.Proofs.Outcome
import SpatialGrammar.Proofs.Pattern

/-!
# Which grammars are accepted

What the checks of a grammar ask for, and what its waves are. Main statement: `build_isOk_iff_fits`,
a grammar is built exactly if its patterns fit together, and each pattern that contributes to the
root is then in one wave, whose number is the length of the longest chain of dependencies that
begins at the pattern.
-/

namespace SpatialGrammar.Grammar

open Dependency (Leads chainLengths)
open Relation (ReflTransGen TransGen)

variable {α : Type} {patterns : List (Pattern α)} {table : NameMap (Pattern α)} {p : Pattern α}
variable {name root pattern : Name} {names seen : List Name} {cs : List (Component α)}
variable {ancestors : NameMap (List Name)} {waves : List (List Name)} {cellTypes : CellTypeTable}

section waves

variable (tab : Tabulates patterns table) (resolved : Resolved patterns)
variable (made : ancestorTable table = .ok ancestors) (rooted : Defines patterns root)

include tab resolved made rooted

lemma reachable_closed : ∀ x ∈ reachable table ancestors root,
    expandedDependencies table ancestors x ⊆ reachable table ancestors root := by
  intro x hx y hy
  have contributes := (tab.mem_reachable resolved made rooted).1 hx
  have step := (tab.mem_expandedDependencies resolved made).1 hy
  exact (tab.mem_reachable resolved made rooted).2 (contributes.trans (.single step))

/-- There are waves unless patterns that contribute to the root depend on each other in a circle. -/
lemma findWaves_isOk_iff : (∃ waves, findWaves table ancestors root = .ok waves) ↔
    ∀ name, Contributes patterns root name → ¬ TransGen (DependsOn patterns) name name := by
  have layered := Dependency.layers_isOk_iff (reachable_closed tab resolved made rooted)
  rw [tab.leads_expandedDependencies resolved made] at layered
  simp only [tab.mem_reachable resolved made rooted] at layered
  rw [← layered, findWaves]
  cases Dependency.layers _ _ _ <;> simp [Except.mapError]

/-- What the waves of a grammar are. -/
structure AreWaves (patterns : List (Pattern α)) (root : Name) (waves : List (List Name)) :
    Prop where
  nodup : waves.flatten.Nodup
  mem_flatten : ∀ name, name ∈ waves.flatten ↔ Contributes patterns root name
  isGreatest : ∀ i wave, waves[i]? = some wave → ∀ name ∈ wave,
    IsGreatest (chainLengths (DependsOn patterns) name) i

lemma areWaves_of_findWaves (found : findWaves table ancestors root = .ok waves) :
    AreWaves patterns root waves := by
  have sorted : Dependency.layers (expandedDependencies table ancestors) []
      (reachable table ancestors root) = .ok waves := by
    unfold findWaves at found
    cases eq : Dependency.layers (expandedDependencies table ancestors) []
        (reachable table ancestors root) with
    | ok ls =>
      rw [eq] at found
      injection found with same
      rw [same]
    | error stuck =>
      rw [eq] at found
      cases found
  have perm := Dependency.flatten_layers_perm sorted
  have start := Dependency.layered_nil (reachable_closed tab resolved made rooted)
  refine ⟨?_, fun name => ?_, fun i wave at_i name mem => ?_⟩
  · exact perm.nodup_iff.2 (Dependency.sortedLT_closure (Dependency.sortedLT_sorted _)).nodup
  · rw [perm.mem_iff, tab.mem_reachable resolved made rooted]
  · have greatest := Dependency.isGreatest_of_layers sorted start at_i mem
    rwa [tab.leads_expandedDependencies resolved made, Nat.zero_add] at greatest

end waves

section checks

/-- What the kind of a pattern asks for: a cell has a declared type; a structure or an area has an
inner component, and its components have different names, proper weights and room for at least one
match; an array has room for at least one item. -/
def MeetsKind [Score α] (cellTypes : CellTypeTable) (p : Pattern α) : Prop :=
  match p.kind with
  | .cell contentType => ∃ expressions, cellTypes.get? contentType = some expressions
  | .general | .area =>
    (∃ c ∈ p.components, c.isOuter = false) ∧ (p.components.map (·.name)).Nodup ∧
      ∀ c ∈ p.components, c.HasRoom ∧ Score.isWeight c.weight = true
  | .array shape | .arrayInContext shape => ∀ most ∈ shape.itemCount.stop, 1 ≤ most

lemma stop_any_eq_true {count : Interval} :
    (count.stop.any fun most => decide (most < 1)) = true ↔ ¬ ∀ most ∈ count.stop, 1 ≤ most := by
  cases count.stop <;> simp

lemma checkComponents_eq_ok_iff [Score α] : checkComponents pattern seen cs = .ok () ↔
    ((cs.map (·.name)).Nodup ∧ ∀ c ∈ cs, c.name ∉ seen) ∧
      ∀ c ∈ cs, c.HasRoom ∧ Score.isWeight c.weight = true := by
  induction cs generalizing seen with
  | nil => simp [checkComponents]
  | cons c rest ih =>
    rw [checkComponents, List.map_cons, List.nodup_cons, List.forall_mem_cons, List.forall_mem_cons]
    split
    next old =>
      refine ⟨nofun, fun h => ?_⟩
      exact absurd (List.contains_iff_mem.1 old) h.1.2.1
    next new =>
      split
      next crowded => exact ⟨nofun, fun h => absurd h.2.1.1 (stop_any_eq_true.1 crowded)⟩
      next room =>
        have roomy : c.HasRoom := not_not.1 fun crowded => room (stop_any_eq_true.2 crowded)
        split
        next unweighted => simp_all
        next weight =>
          rw [ih]
          have apart : (∀ d ∈ rest, d.name ∉ c.name :: seen) ↔
              c.name ∉ rest.map (·.name) ∧ ∀ d ∈ rest, d.name ∉ seen := by
            simp only [List.mem_cons, not_or, List.mem_map, not_exists, not_and, forall_and]
          rw [apart]
          have weighted : Score.isWeight c.weight = true := by simpa using weight
          have first : c.name ∉ seen := fun mem => new (List.contains_iff_mem.2 mem)
          tauto

lemma checkReferences_eq_ok_iff (pattern : Name) : checkReferences table pattern names = .ok () ↔
    ∀ name ∈ names, table.contains name = true := by
  induction names with
  | nil => simp [checkReferences]
  | cons name rest ih =>
    rw [checkReferences, List.forall_mem_cons]
    split
    next here => rw [ih, and_iff_right here]
    next away => exact ⟨nofun, fun h => absurd h.1 away⟩

variable [Score α]

lemma checkKind_eq_ok_iff : checkKind cellTypes p = .ok () ↔ MeetsKind cellTypes p := by
  have composite : (if p.components.all (·.isOuter) then .error (.noInnerComponents p.name)
      else checkComponents p.name [] p.components) = .ok () ↔
      (∃ c ∈ p.components, c.isOuter = false) ∧ (p.components.map (·.name)).Nodup ∧
        ∀ c ∈ p.components, c.HasRoom ∧ Score.isWeight c.weight = true := by
    split
    next outer => simp_all
    next inner =>
      have some_inner : ∃ c ∈ p.components, c.isOuter = false := by simpa using inner
      rw [checkComponents_eq_ok_iff, and_iff_right some_inner,
        and_iff_left fun c _ => List.not_mem_nil]
  have array : ∀ shape : ArrayShape,
      (if shape.itemCount.stop.any fun most => decide (most < 1) then
        Except.error (GrammarError.defect p.name (.noItems shape.itemCount)) else .ok ()) = .ok () ↔
      ∀ most ∈ shape.itemCount.stop, 1 ≤ most := by
    intro shape
    split
    next crowded => exact ⟨nofun, fun h => absurd h (stop_any_eq_true.1 crowded)⟩
    next room =>
      exact iff_of_true rfl (not_not.1 fun crowded => room (stop_any_eq_true.2 crowded))
  unfold checkKind MeetsKind
  cases p.kind with
  | cell contentType =>
    dsimp only
    rw [← NameMap.contains_iff]
    split <;> simp_all
  | general => exact composite
  | area => exact composite
  | array shape => exact array shape
  | arrayInContext shape => exact array shape

lemma checkPattern_eq_ok_iff (tab : Tabulates patterns table) :
    checkPattern table cellTypes p = .ok () ↔
      (∀ name ∈ p.dependencies ++ p.bases, Defines patterns name) ∧ MeetsKind cellTypes p := by
  simp only [checkPattern, Outcome.bind_eq_ok, checkKind_eq_ok_iff, exists_and_right,
    ← tab.contains_iff, ← checkReferences_eq_ok_iff p.name]
  exact and_congr_left' ⟨fun ⟨(), h⟩ => h, fun h => ⟨(), h⟩⟩

end checks

section build

variable [Score α]

/-- Patterns fit together: they have different names, one of them is the root, all references are to
patterns, each pattern meets what its kind asks for, no pattern extends itself, and no pattern that
contributes to the root depends on itself. -/
structure Fits (root : Name) (patterns : List (Pattern α)) (cellTypes : CellTypeTable) : Prop where
  distinct : (patterns.map (·.name)).Nodup
  rooted : Defines patterns root
  resolved : Resolved patterns
  meets : ∀ p ∈ patterns, MeetsKind cellTypes p
  extends_acyclic : ∀ name, ¬ TransGen (Extends patterns) name name
  depends_acyclic : ∀ name, Contributes patterns root name →
    ¬ TransGen (DependsOn patterns) name name

/-- What a grammar holds that is built from patterns. -/
structure Builds (root : Name) (patterns : List (Pattern α)) (cellTypes : CellTypeTable)
    (g : Grammar α) : Prop where
  tabulates : Tabulates patterns g.patterns
  rooted : Defines patterns root
  checked : ∀ p ∈ patterns, checkPattern g.patterns cellTypes p = .ok ()
  ancestors : ancestorTable g.patterns = .ok g.ancestors
  waves : findWaves g.patterns g.ancestors root = .ok g.waves
  root_eq : g.root = root
  cellTypes_eq : g.cellTypes = cellTypes

variable {g : Grammar α}

omit [Score α] in
lemma forM_values_eq_ok (tab : Tabulates patterns table)
    {f : Pattern α → Except GrammarError Unit} :
    table.values.forM f = .ok () ↔ ∀ p ∈ patterns, f p = .ok () := by
  simp only [Outcome.forM_eq_ok, tab.mem_values]

/-- A successful build has gone through all its steps. -/
lemma builds_of_build (h : build root patterns cellTypes = .ok g) :
    Builds root patterns cellTypes g := by
  simp only [build, Outcome.bind_eq_ok] at h
  obtain ⟨table, collected, h⟩ := h
  have tab : Tabulates patterns table := collect_tabulates collected tabulates_empty
  split at h
  next =>
    obtain ⟨_, impossible, _⟩ := Outcome.bind_eq_ok.1 h
    cases impossible
  next rooted =>
    simp only [Outcome.bind_eq_ok, Outcome.pure_eq_ok] at h
    obtain ⟨_, checked, ancestors, made, waves, found, rfl⟩ := h
    exact ⟨tab, tab.contains_iff.1 (by simpa using rooted), (forM_values_eq_ok tab).1 checked, made,
      found, rfl, rfl⟩

/-- The order of the patterns does not matter to the grammar that is built. -/
lemma build_perm {others : List (Pattern α)} (h : patterns.Perm others)
    (built : build root patterns cellTypes = .ok g) : build root others cellTypes = .ok g := by
  rw [build, Outcome.bind_eq_ok] at built ⊢
  obtain ⟨table, collected, built⟩ := built
  exact ⟨table, collect_perm h collected, built⟩

lemma Builds.resolved (h : Builds root patterns cellTypes g) : Resolved patterns := by
  intro p hp
  exact ((checkPattern_eq_ok_iff h.tabulates).1 (h.checked p hp)).1

lemma Builds.areWaves (h : Builds root patterns cellTypes g) : AreWaves patterns root g.waves :=
  areWaves_of_findWaves h.tabulates h.resolved h.ancestors h.rooted h.waves

lemma fits_of_build (h : build root patterns cellTypes = .ok g) : Fits root patterns cellTypes := by
  have b := builds_of_build h
  simp only [build, Outcome.bind_eq_ok] at h
  obtain ⟨table, collected, -⟩ := h
  refine ⟨(collect_isOk_iff.1 ⟨table, collected⟩).1, b.rooted, b.resolved, fun p hp => ?_, ?_, ?_⟩
  · exact ((checkPattern_eq_ok_iff b.tabulates).1 (b.checked p hp)).2
  · exact ((b.tabulates.ancestorTable_eq_ok b.resolved).1 b.ancestors).1
  · exact (findWaves_isOk_iff b.tabulates b.resolved b.ancestors b.rooted).1 ⟨g.waves, b.waves⟩

lemma build_of_fits (h : Fits root patterns cellTypes) :
    ∃ g, build root patterns cellTypes = .ok g := by
  obtain ⟨table, collected⟩ : ∃ table, collect patterns NameMap.empty = .ok table :=
    collect_isOk_iff.2 ⟨h.distinct, fun _ _ => rfl⟩
  have tab : Tabulates patterns table := collect_tabulates collected tabulates_empty
  have checked : table.values.forM (checkPattern table cellTypes) = .ok () :=
    (forM_values_eq_ok tab).2 fun p hp =>
      (checkPattern_eq_ok_iff tab).2 ⟨h.resolved p hp, h.meets p hp⟩
  have made := (tab.ancestorTable_eq_ok h.resolved).2 ⟨h.extends_acyclic, rfl⟩
  obtain ⟨waves, found⟩ := (findWaves_isOk_iff tab h.resolved made h.rooted).2 h.depends_acyclic
  have rooted : (!table.contains root) = false := by
    rw [tab.contains_iff.2 h.rooted]
    rfl
  simp [build, bind, Except.bind, collected, rooted, checked, made, found, pure, Except.pure]

/-- A grammar is built exactly if its patterns fit together. Then the patterns that contribute to
the root are in the waves, each of them once, and the number of its wave is the length of the longest
chain of dependencies that begins at it. -/
theorem build_isOk_iff_fits (root : Name) (patterns : List (Pattern α))
    (cellTypes : CellTypeTable) :
    ((∃ g, build root patterns cellTypes = .ok g) ↔ Fits root patterns cellTypes) ∧
      ∀ g, build root patterns cellTypes = .ok g →
        g.waves.flatten.Nodup ∧
        (∀ name, name ∈ g.waves.flatten ↔ Contributes patterns root name) ∧
        ∀ i wave, g.waves[i]? = some wave → ∀ name ∈ wave,
          IsGreatest (chainLengths (DependsOn patterns) name) i := by
  constructor
  · exact ⟨fun ⟨_, h⟩ => fits_of_build h, build_of_fits⟩
  · intro g h
    have waves := (builds_of_build h).areWaves
    exact ⟨waves.nodup, waves.mem_flatten, waves.isGreatest⟩

end build

end SpatialGrammar.Grammar
