import SpatialGrammar.Proofs.Grammar.Acceptance

/-!
# What built grammars guarantee

A grammar is only built after its patterns have been checked. Main statements: `IsBuilt.builds`, a
built grammar is what its own patterns give, `IsBuilt.name_eq`, every pattern is found under its own
name, and `IsBuilt.components`, the components of a composite pattern have different names and may
bind at least one match.
-/

namespace SpatialGrammar.Grammar

open Relation (ReflTransGen TransGen)

variable {α : Type} [Score α] {patterns : List (Pattern α)} {table : NameMap (Pattern α)}
variable {name other : Name} {p : Pattern α} {g : Grammar α}

/-- A grammar has been built, perhaps with other settings. -/
def IsBuilt (g : Grammar α) : Prop :=
  ∃ root patterns cellTypes settings built,
    build root patterns cellTypes = .ok built ∧ g = built.withOptions settings

/-- A grammar that its own patterns give is built. -/
lemma isBuilt_of_build (h : build g.root g.patterns.values g.cellTypes = .ok g) : g.IsBuilt :=
  ⟨g.root, g.patterns.values, g.cellTypes, g.options, g, h, rfl⟩

omit [Score α] in
lemma Tabulates.values (tab : Tabulates patterns table) : Tabulates table.values table where
  ascending := tab.ascending
  get?_eq_some := tab.get?_eq_some.trans (and_congr_left' tab.mem_values.symm)

/-- A built grammar is what its own patterns give. -/
theorem IsBuilt.builds (h : g.IsBuilt) : Builds g.root g.patterns.values g.cellTypes g := by
  obtain ⟨root, patterns, cellTypes, settings, built, eq, rfl⟩ := h
  obtain ⟨tab, ⟨first, mem, named⟩, checked, ancestors, waves, root_eq, types_eq⟩ :=
    builds_of_build eq
  subst root_eq types_eq
  exact ⟨tab.values, ⟨first, tab.mem_values.2 mem, named⟩,
    fun p hp => checked p (tab.mem_values.1 hp), ancestors, waves, rfl, rfl⟩

lemma IsBuilt.get?_eq_some (h : g.IsBuilt) :
    g.pattern? name = some p ↔ p ∈ g.patterns.values ∧ p.name = name :=
  h.builds.tabulates.get?_eq_some

/-- Every pattern of a built grammar is found under its own name. -/
theorem IsBuilt.name_eq (h : g.IsBuilt) (found : g.pattern? name = some p) : p.name = name :=
  (h.get?_eq_some.1 found).2

lemma IsBuilt.checked (h : g.IsBuilt) (found : g.pattern? name = some p) :
    checkPattern g.patterns g.cellTypes p = .ok () :=
  h.builds.checked p (h.get?_eq_some.1 found).1

/-- What has been checked of a composite pattern of a built grammar. -/
lemma IsBuilt.composite (h : g.IsBuilt) (found : g.pattern? name = some p)
    (composite : p.kind.isComposite = true) :
    (∃ c ∈ p.components, c.isOuter = false) ∧ (p.components.map (·.name)).Nodup ∧
      ∀ c ∈ p.components, c.HasRoom ∧ Score.isWeight c.weight = true := by
  have meets := ((checkPattern_eq_ok_iff h.builds.tabulates).1 (h.checked found)).2
  unfold MeetsKind at meets
  cases kind : p.kind with
  | cell => simp [kind, PatternKind.isComposite] at composite
  | array => simp [kind, PatternKind.isComposite] at composite
  | arrayInContext => simp [kind, PatternKind.isComposite] at composite
  | general | area => simpa only [kind] using meets

/-- The components of a composite pattern of a built grammar have different names, and room for at
least one match. -/
theorem IsBuilt.components (h : g.IsBuilt) (found : g.pattern? name = some p)
    (composite : p.kind.isComposite = true) :
    (p.components.map (·.name)).Nodup ∧ ∀ c ∈ p.components, c.HasRoom := by
  obtain ⟨-, names, proper⟩ := h.composite found composite
  exact ⟨names, fun c hc => (proper c hc).1⟩

/-- The ancestors of a pattern are its bases, direct and indirect. -/
lemma IsBuilt.mem_ancestorNames (h : g.IsBuilt) :
    other ∈ g.ancestorNames name ↔ TransGen (Extends g.patterns.values) name other :=
  h.builds.tabulates.mem_ancestorNames h.builds.resolved h.builds.ancestors

lemma IsBuilt.nodup_ancestorNames (h : g.IsBuilt) (name : Name) :
    (name :: g.ancestorNames name).Nodup :=
  h.builds.tabulates.nodup_ancestorNames h.builds.resolved h.builds.ancestors

/-- A match is registered for a pattern under the names of all patterns that this one extends,
directly or through others, and under its own. -/
lemma IsBuilt.mem_cons_ancestorNames (h : g.IsBuilt) :
    other ∈ name :: g.ancestorNames name ↔ ReflTransGen (Extends g.patterns.values) name other := by
  rw [List.mem_cons, h.mem_ancestorNames, Relation.reflTransGen_iff_eq_or_transGen]

lemma IsBuilt.areWaves (h : g.IsBuilt) : AreWaves g.patterns.values g.root g.waves :=
  h.builds.areWaves

/-- The names in the waves are those of patterns. -/
lemma IsBuilt.exists_pattern (h : g.IsBuilt) (mem : name ∈ g.waves.flatten) :
    ∃ p, g.pattern? name = some p := by
  obtain ⟨first, up, path⟩ := (h.areWaves.mem_flatten name).1 mem
  have defined : Defines g.patterns.values name := by
    cases path with
    | refl => exact .of_extends up h.builds.rooted
    | tail _ step => exact h.builds.resolved.dependency step
  obtain ⟨p, hp, named⟩ := defined
  exact ⟨p, h.get?_eq_some.2 ⟨hp, named⟩⟩

end SpatialGrammar.Grammar
