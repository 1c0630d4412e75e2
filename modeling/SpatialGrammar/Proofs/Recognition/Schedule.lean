import Mathlib
import SpatialGrammar.Proofs.Recognition.Run
import SpatialGrammar.Proofs.Registry
import SpatialGrammar.Proofs.Sheet

/-!
# What the waves of a run see

The registry between the waves of a run, told by what the waves have reported. Main statement:
`named_stable`, a pattern is recognised when everything under its dependencies has been registered,
and what is under a pattern at the end has been found for it and for the patterns that extend it.
-/

namespace SpatialGrammar.Recognition

open Grammar (Extends DependsOn Contributes)
open Relation (ReflTransGen)

variable {α : Type} {g : Grammar α} {registry last : Registry α} {report : PatternReport α}
variable {w : WaveReport α} {ws : List (WaveReport α)} {name d : Name} {m : Match α}

/-- The matches of those reports that are registered under a name. -/
def heldUnder (g : Grammar α) (name : Name) (reports : List (PatternReport α)) : List (Match α) :=
  (reports.filter fun report => (report.pattern :: g.ancestorNames report.pattern).contains name)
    |>.flatMap (·.found)

lemma heldUnder_append (before after : List (PatternReport α)) :
    heldUnder g name (before ++ after) = heldUnder g name before ++ heldUnder g name after := by
  rw [heldUnder, List.filter_append, List.flatMap_append]
  rfl

/-- The registry that a wave of a run sees: that of all waves before it. -/
def Run.registryBefore (r : Run α) (i : ℕ) : Registry α :=
  (r.waves.take i).foldl (registerWave r.grammar) Registry.empty

/-- What a run has found for a pattern. -/
def Run.producedBy (r : Run α) (name : Name) : List (Match α) :=
  ((r.waves.flatten.find? fun report => report.pattern == name).map (·.found)).getD []

section registers

/-- All matches of a report bear the name of its pattern. -/
def PatternReport.Proper (report : PatternReport α) : Prop :=
  ∀ m ∈ report.found, m.pattern = report.pattern

variable (distinct : ∀ name, (name :: g.ancestorNames name).Nodup)

include distinct

/-- The matches of a report are added to what is under the pattern and under its ancestors. -/
lemma named_registerPattern (name : Name) (h : registry.Indexed) (proper : report.Proper) :
    (registerPattern g registry report).Indexed ∧
      (registerPattern g registry report).named name =
        registry.named name ++ heldUnder g name [report] := by
  have all : ∀ (ms : List (Match α)) (registry : Registry α), registry.Indexed →
      (∀ m ∈ ms, m.pattern = report.pattern) →
      let later := ms.foldl (fun r m => r.register m (g.ancestorNames report.pattern)) registry
      later.Indexed ∧ later.named name = registry.named name ++
        if name ∈ report.pattern :: g.ancestorNames report.pattern then ms else [] := by
    intro ms
    induction ms with
    | nil => simp
    | cons m rest ih =>
      intro registry h proper
      obtain ⟨here, later⟩ := List.forall_mem_cons.1 proper
      obtain ⟨indexed, eq⟩ := ih _ (h.register m (g.ancestorNames report.pattern)) later
      refine ⟨indexed, ?_⟩
      rw [List.foldl_cons, eq, Registry.named_register h (here ▸ distinct m.pattern), here]
      split <;> simp
  obtain ⟨indexed, eq⟩ := all report.found registry h proper
  refine ⟨indexed, eq.trans ?_⟩
  simp only [heldUnder, List.filter_cons, List.contains_iff_mem, List.filter_nil]
  split <;> simp

/-- What is under a name are the matches of all reports that are registered under it. -/
lemma named_foldl_registerWave (h : registry.Indexed)
    (proper : ∀ report ∈ ws.flatten, report.Proper) :
    (ws.foldl (registerWave g) registry).named name =
      registry.named name ++ heldUnder g name ws.flatten := by
  have all : ∀ (reports : List (PatternReport α)) (registry : Registry α), registry.Indexed →
      (∀ report ∈ reports, report.Proper) →
      (reports.foldl (registerPattern g) registry).named name =
        registry.named name ++ heldUnder g name reports := by
    intro reports
    induction reports with
    | nil => simp [heldUnder]
    | cons report rest ih =>
      intro registry h proper
      obtain ⟨here, later⟩ := List.forall_mem_cons.1 proper
      obtain ⟨indexed, eq⟩ := named_registerPattern distinct name h here
      rw [List.foldl_cons, ih _ indexed later, eq, List.append_assoc, ← heldUnder_append,
        List.singleton_append]
  rw [show ws.foldl (registerWave g) registry = ws.flatten.foldl (registerPattern g) registry from
    List.foldl_flatten.symm]
  exact all ws.flatten registry h proper

end registers

variable [Score α] {options : Options α} {cells : List (ClassifiedCell α)} {s : Scene α}
variable {names : List Name} {waves : List (List Name)} {r : Run α} {i : ℕ} {p : Pattern α}

section waves

/-- Each report of a wave is what its pattern is recognised as. -/
lemma exists_of_mem_wave (h : recogniseWave s names = .ok w) (mem : report ∈ w) :
    ∃ name ∈ names, ∃ p, s.grammar.pattern? name = some p ∧ report.pattern = p.name ∧
      recognisePattern s p = .ok report.found := by
  obtain ⟨p, hp, eq⟩ := Outcome.exists_of_mapM h mem
  obtain ⟨name, hn, found⟩ := List.mem_filterMap.1 hp
  simp only [Outcome.bind_eq_ok, Outcome.pure_eq_ok] at eq
  obtain ⟨ms, recognised, rfl⟩ := eq
  exact ⟨name, hn, p, found, rfl, recognised⟩

/-- A wave of known patterns has a report for each of them. -/
lemma map_pattern_of_wave (h : recogniseWave s names = .ok w)
    (known : ∀ name ∈ names, ∃ p, s.grammar.pattern? name = some p ∧ p.name = name) :
    w.map (·.pattern) = names := by
  have patterns : (names.filterMap s.grammar.pattern?).map (·.name) = names := by
    clear h
    induction names with
    | nil => rfl
    | cons name rest ih =>
      obtain ⟨⟨p, found, named⟩, later⟩ := List.forall_mem_cons.1 known
      rw [List.filterMap_cons_some found, List.map_cons, named, ih later]
  have each := Outcome.mapM_eq_ok.1 h
  rw [← patterns]
  clear h patterns known
  generalize names.filterMap s.grammar.pattern? = ps at each
  induction each with
  | nil => rfl
  | cons here _ ih =>
    simp only [Outcome.bind_eq_ok, Outcome.pure_eq_ok] at here
    obtain ⟨ms, -, rfl⟩ := here
    rw [List.map_cons, List.map_cons, ih]

/-- Every wave is recognised with the registry that the waves before it have left. -/
lemma recogniseWaves_eq_ok
    (h : recogniseWaves { grammar := g, options, cells, registry } waves = .ok (ws, last)) :
    last = ws.foldl (registerWave g) registry ∧ ws.length = waves.length ∧
      ∀ i names w, waves[i]? = some names → ws[i]? = some w →
        recogniseWave
          { grammar := g, options, cells, registry := (ws.take i).foldl (registerWave g) registry }
          names = .ok w := by
  induction waves generalizing registry ws with
  | nil =>
    rw [recogniseWaves, Except.ok.injEq] at h
    obtain ⟨rfl, rfl⟩ := Prod.mk.inj h
    refine ⟨rfl, rfl, fun i names w at_i => ?_⟩
    rw [List.getElem?_nil] at at_i
    cases at_i
  | cons names rest ih =>
    simp only [recogniseWaves, advance, Outcome.bind_eq_ok, Outcome.pure_eq_ok] at h
    obtain ⟨⟨w, next⟩, ⟨_, first, h'⟩, ⟨ws', last'⟩, later, h⟩ := h
    obtain ⟨rfl, rfl⟩ := Prod.mk.inj h'
    obtain ⟨rfl, rfl⟩ := Prod.mk.inj h
    obtain ⟨eq, length, each⟩ := ih later
    refine ⟨eq, congr_arg (· + 1) length, fun i names' w' at_i at_i' => ?_⟩
    cases i with
    | zero =>
      obtain rfl := Option.some.inj at_i
      obtain rfl := Option.some.inj at_i'
      exact first
    | succ i => exact each i names' w' at_i at_i'

/-- Every wave of a run is recognised with the registry before it. -/
lemma run_eq_ok (h : run g options cells = .ok r) :
    r.grammar = g ∧ r.registry = r.waves.foldl (registerWave g) Registry.empty ∧
      r.waves.length = g.waves.length ∧
      ∀ i names w, g.waves[i]? = some names → r.waves[i]? = some w →
        recogniseWave { grammar := g, options, cells, registry := r.registryBefore i } names =
          .ok w := by
  simp only [run, Outcome.bind_eq_ok, Outcome.pure_eq_ok] at h
  obtain ⟨⟨ws, registry⟩, h, rfl⟩ := h
  exact ⟨rfl, recogniseWaves_eq_ok h⟩

/-- Each report of a wave of a run is what its pattern is recognised as, with the registry before
the wave. -/
lemma exists_of_mem_runWave (h : run g options cells = .ok r) (at_i : r.waves[i]? = some w)
    (mem : report ∈ w) : ∃ name p, g.pattern? name = some p ∧ report.pattern = p.name ∧
      recognisePattern { grammar := g, options, cells, registry := r.registryBefore i } p =
        .ok report.found := by
  obtain ⟨-, -, length, each⟩ := run_eq_ok h
  have lt : i < g.waves.length := length ▸ (List.getElem?_eq_some_iff.1 at_i).1
  have recognised := each i _ w (List.getElem?_eq_getElem lt) at_i
  obtain ⟨name, -, p, found, named, h⟩ := exists_of_mem_wave recognised mem
  exact ⟨name, p, found, named, h⟩

/-- Each report of a run is what its pattern is recognised as, with some earlier registry. -/
lemma exists_of_mem_run (h : run g options cells = .ok r) (mem : report ∈ r.waves.flatten) :
    ∃ registry name p, g.pattern? name = some p ∧ report.pattern = p.name ∧
      recognisePattern { grammar := g, options, cells, registry } p = .ok report.found := by
  obtain ⟨w, hw, mem⟩ := List.mem_flatten.1 mem
  obtain ⟨i, at_i⟩ := List.mem_iff_getElem?.1 hw
  exact ⟨_, exists_of_mem_runWave h at_i mem⟩

end waves

section built

variable (built : g.IsBuilt) (ran : run g options cells = .ok r)

include built ran

lemma map_pattern_getElem? {names : List Name} (at_i : g.waves[i]? = some names)
    (at_i' : r.waves[i]? = some w) : w.map (·.pattern) = names := by
  refine map_pattern_of_wave ((run_eq_ok ran).2.2.2 i names w at_i at_i') fun name mem => ?_
  have inside : name ∈ g.waves.flatten := List.mem_flatten.2 ⟨names, List.mem_of_getElem? at_i, mem⟩
  obtain ⟨p, found⟩ := built.exists_pattern inside
  exact ⟨p, found, built.name_eq found⟩

/-- A run reports on all patterns in the waves, wave by wave. -/
lemma map_pattern_waves : r.waves.map (fun w => w.map (·.pattern)) = g.waves := by
  have length : r.waves.length = g.waves.length := (run_eq_ok ran).2.2.1
  refine List.ext_getElem ((List.length_map _).trans length) fun i lt lt' => ?_
  rw [List.getElem_map]
  have lt : i < r.waves.length := length ▸ lt'
  exact map_pattern_getElem? built ran (List.getElem?_eq_getElem lt') (List.getElem?_eq_getElem lt)

lemma map_pattern_flatten : r.waves.flatten.map (·.pattern) = g.waves.flatten := by
  rw [← map_pattern_waves built ran, List.map_flatten]

omit built in
lemma proper_of_mem_run (mem : report ∈ r.waves.flatten) : report.Proper := by
  obtain ⟨_, _, p, -, named, recognised⟩ := exists_of_mem_run ran mem
  obtain ⟨_, matched, sub⟩ := recognisePattern_subset recognised
  exact fun m hm => (patternMatches_named matched (sub hm)).trans named.symm

lemma named_registryBefore (i : ℕ) (name : Name) :
    (r.registryBefore i).named name = heldUnder g name (r.waves.take i).flatten := by
  obtain ⟨rfl, -⟩ := run_eq_ok ran
  rw [Run.registryBefore, named_foldl_registerWave built.nodup_ancestorNames Registry.indexed_empty]
  · rfl
  · intro report mem
    refine proper_of_mem_run ran ?_
    exact ((List.take_sublist i _).flatten).subset mem

lemma named_registry (name : Name) :
    r.registry.named name = heldUnder g name r.waves.flatten := by
  have all := named_registryBefore built ran r.waves.length name
  obtain ⟨rfl, eq, -⟩ := run_eq_ok ran
  rwa [Run.registryBefore, List.take_length, ← eq] at all

/-- The wave of a report is that of its pattern. -/
lemma isGreatest_of_report {j : ℕ} (at_j : r.waves[j]? = some w) (mem : report ∈ w) :
    IsGreatest (Dependency.chainLengths (DependsOn g.patterns.values) report.pattern) j := by
  have at_j' : g.waves[j]? = some (w.map (·.pattern)) := by
    rw [← map_pattern_waves built ran, List.getElem?_map, at_j]
    rfl
  exact built.areWaves.isGreatest j _ at_j' _ (List.mem_map_of_mem mem)

/-- When a pattern is recognised, all that will ever be under its dependencies is registered. -/
lemma named_dependency (at_i : g.waves[i]? = some names) (mem : name ∈ names)
    (found : g.pattern? name = some p) (hd : d ∈ p.dependencies) :
    (r.registryBefore i).named d = r.registry.named d := by
  rw [named_registryBefore built ran, named_registry built ran]
  have split : r.waves.flatten = (r.waves.take i).flatten ++ (r.waves.drop i).flatten := by
    rw [← List.flatten_append, List.take_append_drop]
  have none : heldUnder g d (r.waves.drop i).flatten = [] := by
    rw [heldUnder, List.filter_eq_nil_iff.2, List.flatMap_nil]
    intro report later under
    obtain ⟨w, hw, hr⟩ := List.mem_flatten.1 later
    obtain ⟨k, at_k⟩ := List.mem_iff_getElem?.1 hw
    rw [List.getElem?_drop] at at_k
    have up := built.mem_cons_ancestorNames.1 (List.contains_iff_mem.1 under)
    obtain ⟨hp, named⟩ := built.get?_eq_some.1 found
    -- what extends a dependency is in an earlier wave than the pattern
    have lt := Dependency.lt_of_isGreatest (built.areWaves.isGreatest i names at_i name mem)
      (isGreatest_of_report built ran at_k hr) ⟨p, hp, named, d, hd, up⟩
    omega
  rw [split, heldUnder_append, none, List.append_nil]

lemma producedBy_of_mem (mem : report ∈ r.waves.flatten) :
    r.producedBy report.pattern = report.found := by
  have nodup : (r.waves.flatten.map (·.pattern)).Nodup :=
    map_pattern_flatten built ran ▸ built.areWaves.nodup
  generalize eq : r.waves.flatten = reports at mem nodup
  rw [Run.producedBy, eq]
  clear eq
  induction reports with
  | nil => cases mem
  | cons first rest ih =>
    obtain ⟨away, nodup⟩ := List.nodup_cons.1 nodup
    cases List.mem_cons.1 mem with
    | inl same => simp [same]
    | inr mem =>
      have ne : first.pattern ≠ report.pattern := fun same =>
        away (List.mem_map.2 ⟨report, mem, same.symm⟩)
      rw [List.find?_cons_of_neg (by simpa using ne)]
      exact ih mem nodup

/-- What is under a name at the end are the matches of the patterns in the waves that are registered
under it. -/
lemma named_eq_flatMap (name : Name) : r.registry.named name =
    (g.waves.flatten.filter fun q => (q :: g.ancestorNames q).contains name).flatMap
      r.producedBy := by
  rw [named_registry built ran, ← map_pattern_flatten built ran, List.filter_map, List.flatMap_map,
    heldUnder]
  refine List.flatMap_congr fun report mem => ?_
  exact (producedBy_of_mem built ran (List.mem_filter.1 mem).1).symm

end built

/-- In a run of a built grammar, each pattern is recognised when all that will ever be registered
under its dependencies is there. At the end, what is under a pattern that contributes to the root
are the matches of this pattern and of all patterns that extend it, directly or through others, each
of them once. -/
theorem named_stable (built : g.IsBuilt) (ran : run g options cells = .ok r) :
    (∀ i names, g.waves[i]? = some names → ∀ name ∈ names, ∃ p, g.pattern? name = some p ∧
      recognisePattern { grammar := g, options, cells, registry := r.registryBefore i } p =
        .ok (r.producedBy name) ∧
      ∀ d ∈ p.dependencies, (r.registryBefore i).named d = r.registry.named d) ∧
    ∀ name, Contributes g.patterns.values g.root name →
      ∃ family : List Name, family.Nodup ∧
        (∀ q, q ∈ family ↔ ReflTransGen (Extends g.patterns.values) q name) ∧
        r.registry.named name = family.flatMap r.producedBy := by
  constructor
  · intro i names at_i name mem
    have lt : i < r.waves.length := by
      rw [(run_eq_ok ran).2.2.1]
      exact (List.getElem?_eq_some_iff.1 at_i).1
    have at_i' := List.getElem?_eq_getElem lt
    have recognised := (run_eq_ok ran).2.2.2 i names _ at_i at_i'
    rw [← map_pattern_getElem? built ran at_i at_i'] at mem
    obtain ⟨report, hr, rfl⟩ := List.mem_map.1 mem
    obtain ⟨q, hq, p, found, named, eq⟩ := exists_of_mem_wave recognised hr
    have same : q = report.pattern := (built.name_eq found).symm.trans named.symm
    subst same
    rw [producedBy_of_mem built ran (List.mem_flatten.2 ⟨_, List.getElem_mem lt, hr⟩)]
    exact ⟨p, found, eq, fun d hd => named_dependency built ran at_i hq found hd⟩
  · intro name contributes
    refine ⟨_, built.areWaves.nodup.filter _, fun q => ?_, named_eq_flatMap built ran name⟩
    rw [List.mem_filter, List.contains_iff_mem, built.mem_cons_ancestorNames]
    refine and_iff_right_of_imp fun up => ?_
    exact (built.areWaves.mem_flatten q).2 (contributes.trans_extends up)

/-- A grammar of fields of digits; small digits count as digits, too. -/
def fieldGrammar : Grammar ℚ where
  patterns := ⟨[("digit", { name := "digit", kind := .cell "d" }),
    ("field", { name := "field", kind := .array { item := "digit", layout := .fill } }),
    ("small", { name := "small", kind := .cell "d", bases := ["digit"] })]⟩
  root := "field"
  cellTypes := ⟨[("d", ["[0-9]"])]⟩
  options := Options.standard
  ancestors := ⟨[("digit", []), ("field", []), ("small", ["digit"])]⟩
  waves := [["digit", "small"], ["field"]]

lemma isBuilt_fieldGrammar : fieldGrammar.IsBuilt :=
  Grammar.isBuilt_of_build (by with_unfolding_all rfl)

/-- Two digits in a row. -/
def twoDigits : Sheet := (Sheet.empty.set ⟨0, 0⟩ "1").set ⟨1, 0⟩ "2"

lemma made_twoDigits : twoDigits.Made := (Sheet.Made.empty.set _ _).set _ _

/-- The digits with their type. -/
def digitCells : List (ClassifiedCell ℚ) := classifyCells (fun _ => [⟨"d", 1⟩]) twoDigits

lemma exists_run_digitCells : ∃ r, run fieldGrammar Options.standard digitCells = .ok r := by
  have ran : (run fieldGrammar Options.standard digitCells).toOption.isSome = true := by cbv
  obtain ⟨r, ran⟩ := Option.isSome_iff_exists.1 ran
  exact ⟨r, Outcome.toOption_eq_some.1 ran⟩

/-- What is under the digits are the matches found for the digits and for the small digits. -/
theorem named_stable_field : fieldGrammar.IsBuilt ∧
    ∃ r, run fieldGrammar Options.standard digitCells = .ok r ∧
      ∃ family : List Name, family.Nodup ∧
        (∀ q, q ∈ family ↔ ReflTransGen (Extends fieldGrammar.patterns.values) q "digit") ∧
        r.registry.named "digit" = family.flatMap r.producedBy := by
  obtain ⟨r, ran⟩ := exists_run_digitCells
  have built := isBuilt_fieldGrammar
  have contributes := (built.areWaves.mem_flatten "digit").1 (by decide)
  exact ⟨built, r, ran, (named_stable built ran).2 "digit" contributes⟩

end SpatialGrammar.Recognition
