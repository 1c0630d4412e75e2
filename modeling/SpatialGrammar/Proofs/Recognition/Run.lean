import SpatialGrammar.Proofs.Grammar.Build
import SpatialGrammar.Proofs.Recognition.Areas
import SpatialGrammar.Proofs.Recognition.Arrays
import SpatialGrammar.Proofs.Recognition.Structures
import SpatialGrammar.Recognition.Run

/-!
# What runs register

Properties of everything that is in the registry at the end of a run. Main statements:
`run_induction`, a property holds of all registered matches if the recognition of any pattern
establishes it for what it finds among matches that have it, and `registered_fulfil`, the registered
matches of composite patterns fulfil their patterns.
-/

namespace SpatialGrammar.Recognition

variable {α : Type} {m : Match α} {registry : Registry α} {report : PatternReport α}
variable {w : WaveReport α} {g : Grammar α} {P : Match α → Prop}

section register

lemma mem_registerPattern : m ∈ (registerPattern g registry report).found ↔
    m ∈ registry.found ∨ m ∈ report.found := by
  have all : ∀ (ms : List (Match α)) (names : List Name) (registry : Registry α),
      m ∈ (ms.foldl (fun r m => r.register m names) registry).found ↔
        m ∈ registry.found ∨ m ∈ ms := by
    intro ms names
    induction ms with
    | nil => simp
    | cons first rest ih =>
      intro registry
      rw [List.foldl_cons, ih]
      simp [Registry.register, or_assoc]
  exact all report.found _ registry

/-- A wave registers what its patterns have found, and nothing else. -/
lemma mem_registerWave : m ∈ (registerWave g registry w).found ↔
    m ∈ registry.found ∨ ∃ report ∈ w, m ∈ report.found := by
  induction w generalizing registry with
  | nil => simp [registerWave]
  | cons report rest ih =>
    have step : registerWave g registry (report :: rest) =
        registerWave g (registerPattern g registry report) rest := rfl
    rw [step, ih, mem_registerPattern, or_assoc, List.exists_mem_cons_iff]

lemma mem_foldl_registerWave {ws : List (WaveReport α)} :
    m ∈ (ws.foldl (registerWave g) registry).found ↔
      m ∈ registry.found ∨ ∃ report ∈ ws.flatten, m ∈ report.found := by
  induction ws generalizing registry with
  | nil => simp
  | cons w rest ih =>
    rw [List.foldl_cons, ih, mem_registerWave, or_assoc, List.flatten_cons]
    simp only [List.mem_append, or_and_right, exists_or]

end register

variable [Score α] {options : Options α} {cells : List (ClassifiedCell α)} {s : Scene α}
variable {names : List Name} {waves : List (List Name)} {name : Name} {p : Pattern α}
variable {ms : List (Match α)} {region : Option Region} {r : Run α}

/-- The recognition of any pattern of a grammar, among matches that have a property, establishes the
property for what it finds. -/
def Establishes (g : Grammar α) (options : Options α) (cells : List (ClassifiedCell α))
    (P : Match α → Prop) : Prop :=
  ∀ registry : Registry α, (∀ m ∈ registry.found, P m) →
    ∀ name p, g.pattern? name = some p →
      ∀ ms, recognisePattern { grammar := g, options, cells, registry } p = .ok ms → ∀ m ∈ ms, P m

/-- One wave keeps a property of all registered matches. -/
lemma advance_induction {next : Scene α} (step : Establishes g options cells P)
    (inv : ∀ m ∈ registry.found, P m)
    (h : advance { grammar := g, options, cells, registry } names = .ok (w, next)) :
    ∃ later, next = { grammar := g, options, cells, registry := later } ∧
      ∀ m ∈ later.found, P m := by
  simp only [advance, Outcome.bind_eq_ok, Outcome.pure_eq_ok] at h
  obtain ⟨reports, recognised, h⟩ := h
  obtain ⟨-, rfl⟩ := Prod.mk.inj h
  refine ⟨_, rfl, fun m hm => ?_⟩
  rcases mem_registerWave.1 hm with hm | ⟨report, hr, hm⟩
  · exact inv m hm
  · obtain ⟨p, hp, eq⟩ := Outcome.exists_of_mapM recognised hr
    obtain ⟨name, -, found⟩ := List.mem_filterMap.1 hp
    simp only [Outcome.bind_eq_ok, Outcome.pure_eq_ok] at eq
    obtain ⟨ms, eq, rfl⟩ := eq
    exact step registry inv name p found ms eq m hm

/-- All waves of a run keep a property of all registered matches. -/
lemma recogniseWaves_induction {reports : List (WaveReport α)} {last : Registry α}
    (step : Establishes g options cells P) (inv : ∀ m ∈ registry.found, P m)
    (h : recogniseWaves { grammar := g, options, cells, registry } waves = .ok (reports, last)) :
    ∀ m ∈ last.found, P m := by
  induction waves generalizing registry reports with
  | nil =>
    rw [recogniseWaves, Except.ok.injEq] at h
    exact (Prod.mk.inj h).2 ▸ inv
  | cons names rest ih =>
    simp only [recogniseWaves, Outcome.bind_eq_ok, Outcome.pure_eq_ok] at h
    obtain ⟨⟨w, next⟩, advanced, ⟨ws, last'⟩, rest, h⟩ := h
    obtain ⟨-, rfl⟩ := Prod.mk.inj h
    obtain ⟨later, rfl, inv⟩ := advance_induction step inv advanced
    exact ih inv rest

/-- What the recognition of any pattern establishes holds of all matches that a run registers. -/
theorem run_induction (step : Establishes g options cells P)
    (h : run g options cells = .ok r) : ∀ m ∈ r.registry.found, P m := by
  simp only [run, Outcome.bind_eq_ok, Outcome.pure_eq_ok] at h
  obtain ⟨⟨reports, registry⟩, h, rfl⟩ := h
  refine recogniseWaves_induction step (fun m hm => ?_) h
  simp [Registry.empty] at hm

section patterns

omit [Score α] in
lemma listed_subset (limit : Option Nat) (ms : List (Match α)) : listed limit ms ⊆ ms := by
  cases limit with
  | none => exact (List.mergeSort_perm ms _).subset
  | some most => exact List.Subset.trans (List.take_subset most _) (List.mergeSort_perm ms _).subset

omit [Score α] in
lemma enforceCount_subset (count : Interval) (ms : List (Match α)) :
    enforceCount count ms ⊆ ms := by
  unfold enforceCount
  split
  · exact List.Subset.refl ms
  · exact List.take_subset _ ms

/-- Whatever a run registers for a pattern is a match of the pattern. -/
lemma recognisePattern_subset (h : recognisePattern s p = .ok ms) :
    ∃ found, patternMatches s p none = .ok found ∧ ms ⊆ found := by
  simp only [recognisePattern, Outcome.bind_eq_ok, Outcome.pure_eq_ok] at h
  obtain ⟨found, h, rfl⟩ := h
  exact ⟨found, h, List.Subset.trans (enforceCount_subset _ _) (listed_subset _ _)⟩

/-- The match of a cell pattern is that of a cell. -/
lemma cellMatch?_eq_some {contentType : Name} {c : ClassifiedCell α}
    (h : cellMatch? s p contentType region c = .ok (some m)) :
    ∃ text cellType confidence, m = .cell p.name c.cell.box text cellType confidence := by
  unfold cellMatch? at h
  split at h
  · cases h
  split at h
  · cases h
  obtain ⟨-, h⟩ := Outcome.ite_eq_ok_some.1 h
  exact ⟨_, _, _, (Option.some.inj (Outcome.pure_eq_ok.1 h)).symm⟩

lemma exists_of_cellMatches {contentType : Name}
    (h : cellMatches s p contentType region = .ok ms) (hm : m ∈ ms) :
    ∃ box text cellType confidence, m = .cell p.name box text cellType confidence := by
  simp only [cellMatches, Outcome.bind_eq_ok, Outcome.pure_eq_ok] at h
  obtain ⟨all, h, rfl⟩ := h
  obtain ⟨c, -, eq⟩ := Outcome.exists_of_mapM_option h hm
  exact ⟨_, cellMatch?_eq_some eq⟩

lemma cellMatches_named {contentType : Name} (h : cellMatches s p contentType region = .ok ms)
    (hm : m ∈ ms) : m.pattern = p.name := by
  obtain ⟨_, _, _, _, rfl⟩ := exists_of_cellMatches h hm
  rfl

lemma arrayMatches_named {shape : ArrayShape} {inContext : Bool}
    (h : arrayMatches s p shape inContext region = .ok ms) (hm : m ∈ ms) :
    m.pattern = p.name := by
  obtain ⟨items, -, rfl⟩ := exists_items_of_arrayMatches h hm
  rfl

/-- The matches of a pattern bear its name. -/
theorem patternMatches_named (h : patternMatches s p region = .ok ms) (hm : m ∈ ms) :
    m.pattern = p.name := by
  unfold patternMatches at h
  split at h
  · exact cellMatches_named h hm
  · exact structureMatches_named h hm
  · exact arrayMatches_named h hm
  · exact arrayMatches_named h hm
  · exact areaMatches_named h hm

/-- The matches of a composite pattern are composed of what there is for its components. -/
theorem patternMatches_composed (h : patternMatches s p region = .ok ms) (hm : m ∈ ms)
    (composite : p.kind.isComposite = true) (roomy : ∀ c ∈ p.components, c.HasRoom) :
    Composed s p m := by
  unfold patternMatches at h
  cases kind : p.kind with
  | general => exact structureMatches_composed (by simpa only [kind] using h) hm roomy
  | area => exact areaMatches_composed (by simpa only [kind] using h) hm roomy
  | cell => simp [kind, PatternKind.isComposite] at composite
  | array => simp [kind, PatternKind.isComposite] at composite
  | arrayInContext => simp [kind, PatternKind.isComposite] at composite

end patterns

/-- The matches of composite patterns that a run of a built grammar registers fulfil their
patterns. -/
theorem registered_fulfil (built : g.IsBuilt) (ran : run g options cells = .ok r) :
    ∀ m ∈ r.registry.found, ∀ p, g.pattern? m.pattern = some p → p.kind.isComposite = true →
      Fulfils g p m := by
  refine run_induction (fun registry _ name q found ms recognised m hm p found' composite => ?_) ran
  obtain ⟨all, matched, sub⟩ := recognisePattern_subset recognised
  have same : p = q := by
    rw [patternMatches_named matched (sub hm), built.name_eq found, found] at found'
    exact (Option.some.inj found').symm
  subst same
  obtain ⟨names, roomy⟩ := built.components found composite
  exact (patternMatches_composed matched (sub hm) composite roomy).fulfils names

/-- A grammar of records, each of which has a word as its key. -/
def recordGrammar : Except GrammarError (Grammar ℚ) :=
  Grammar.build "record"
    [{ name := "word", kind := .cell "text" },
      { name := "record", kind := .general,
        components := [{ name := "key", pattern := "word", weight := 1 }] }]
    (NameMap.empty.insert "text" [])

/-- A single word is recognised as a record, which fulfils its pattern. -/
theorem registered_fulfil_record :
    ∃ (g : Grammar ℚ) (r : Run ℚ) (m : Match ℚ) (p : Pattern ℚ), g.IsBuilt ∧
      run g Options.standard [⟨⟨"x", Box.unit 0 0⟩, [⟨"text", 1⟩]⟩] = .ok r ∧
      m ∈ r.registry.found ∧ g.pattern? m.pattern = some p ∧ p.kind.isComposite = true ∧
      Fulfils g p m := by
  have found : (do
      let g ← recordGrammar.toOption
      let r ← (run g Options.standard [⟨⟨"x", Box.unit 0 0⟩, [⟨"text", 1⟩]⟩]).toOption
      let m ← r.registry.found.toList.find? fun m => m.pattern == "record"
      let p ← g.pattern? m.pattern
      return p.kind.isComposite) = some true := by
    decide +kernel
  simp only [Option.bind_eq_bind, Option.bind_eq_some_iff, Option.pure_def, Option.some.injEq,
    Outcome.toOption_eq_some] at found
  obtain ⟨g, built, r, ran, m, hm, p, hp, composite⟩ := found
  have mem : m ∈ r.registry.found := Array.mem_toList_iff.1 (List.mem_of_find?_eq_some hm)
  have isBuilt : g.IsBuilt := ⟨_, _, _, g.options, g, built, rfl⟩
  exact ⟨g, r, m, p, isBuilt, ran, mem, hp, composite,
    registered_fulfil isBuilt ran m mem p hp composite⟩

end SpatialGrammar.Recognition
