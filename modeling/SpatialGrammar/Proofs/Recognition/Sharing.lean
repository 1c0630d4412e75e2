import SpatialGrammar.Proofs.Recognition.Disjointness

/-!
# Cells that a match uses twice

Structures and areas only bind matches that do not overlap. Arrays do not look at this: they take
up all matches that are registered under the pattern of their items, and those of patterns that
extend it may lie on the same cells. Main statement: `cells_apart_or_mingled`, this is the only way
in which a match of a run comes to use a grid point twice.
-/

namespace SpatialGrammar.Recognition

open Grammar (Extends)
open Relation (ReflTransGen)

variable {α : Type} {g : Grammar α} {m n i j : Match α} {registry : Registry α}

/-- Items of an array are matches of different patterns, each of which is the pattern of the items
or extends it, directly or through others. -/
structure Mingled (g : Grammar α) (n i j : Match α) : Prop where
  items : [i, j].Sublist n.items
  differ : i.pattern ≠ j.pattern
  array : ∃ p shape, g.pattern? n.pattern = some p ∧ p.kind.shape? = some shape ∧
    ReflTransGen (Extends g.patterns.values) i.pattern shape.item ∧
    ReflTransGen (Extends g.patterns.values) j.pattern shape.item

/-- Children do not overlap anywhere within a match, except for items of different patterns. -/
def Orderly (g : Grammar α) (m : Match α) : Prop :=
  ∀ n : Match α, n.IsWithin m → n.children.Pairwise fun i j => i.Apart j ∨ Mingled g n i j

lemma Orderly.of_children (here : m.children.Pairwise fun i j => i.Apart j ∨ Mingled g m i j)
    (below : ∀ child ∈ m.children, Orderly g child) : Orderly g m := by
  intro n inside
  cases inside.cases_head with
  | inl same => exact same ▸ here
  | inr step =>
    obtain ⟨child, mem, inside⟩ := step
    exact below child mem n inside

/-- What is under the names of a registry: orderly matches of the pattern and of those that extend
it, such that the matches of one pattern do not overlap. -/
structure Tidy (g : Grammar α) (registry : Registry α) : Prop where
  orderly : ∀ name, ∀ m ∈ registry.named name, Orderly g m
  extending : ∀ name, ∀ m ∈ registry.named name,
    ReflTransGen (Extends g.patterns.values) m.pattern name
  apart : ∀ name, (registry.named name).Pairwise fun i j => i.pattern = j.pattern → i.Apart j

variable [Score α] {s : Scene α} {p : Pattern α} {region : Option Region} {ms : List (Match α)}
variable {name : Name}

section patterns

variable (built : s.grammar.IsBuilt) (tidy : Tidy s.grammar s.registry)

include built tidy

/-- Arrays of orderly items are orderly. -/
lemma arrayMatches_orderly {shape : ArrayShape} {inContext : Bool}
    (found : s.grammar.pattern? name = some p) (kind : p.kind.shape? = some shape)
    (h : arrayMatches s p shape inContext region = .ok ms) (hm : m ∈ ms) :
    Orderly s.grammar m := by
  have own : s.grammar.pattern? p.name = some p := (built.name_eq found).symm ▸ found
  obtain ⟨items, ⟨taken, perm, sub⟩, rfl⟩ := exists_items_of_arrayMatches h hm
  have sub := sub.trans (Registry.namedIn_sublist _ _ _)
  have sorted : (Match.inRowOrder items).Perm taken :=
    (List.mergeSort_perm items _).trans perm.symm
  have registered : ∀ i ∈ Match.inRowOrder items, i ∈ s.registry.named shape.item := fun i hi =>
    sub.subset (sorted.mem_iff.1 hi)
  have apart : (Match.inRowOrder items).Pairwise fun i j => i.pattern = j.pattern → i.Apart j :=
    (sorted.pairwise_iff fun apart same => (apart same.symm).symm).2 ((tidy.apart _).sublist sub)
  refine .of_children ?_ fun i hi => tidy.orderly _ i (registered i hi)
  refine List.pairwise_iff_forall_sublist.2 fun {i j} pair => ?_
  by_cases same : i.pattern = j.pattern
  · exact .inl (List.pairwise_iff_forall_sublist.1 apart pair same)
  · have up := fun k hk => tidy.extending shape.item k (registered k (pair.subset hk))
    exact .inr ⟨pair, same, p, shape, own, kind, up i (by simp), up j (by simp)⟩

/-- Matches of orderly components that do not overlap are orderly. -/
lemma orderly_of_composed (h : Composed s p m) (names : (p.components.map (·.name)).Nodup) :
    Orderly s.grammar m := by
  refine .of_children ((h.pairwise_children names).imp .inl) fun child hc => ?_
  obtain ⟨c, -, registered | ⟨q, shape, region, ms, found, kind, matched, hm⟩⟩ := h.supplies hc
  · exact tidy.orderly c.pattern child registered
  · have shape? : q.kind.shape? = some shape := by rw [kind, PatternKind.shape?]
    exact arrayMatches_orderly built tidy found shape? matched hm

/-- A pattern is only matched by orderly matches if all that are registered are orderly. -/
theorem patternMatches_orderly (found : s.grammar.pattern? name = some p)
    (h : patternMatches s p region = .ok ms) (hm : m ∈ ms) : Orderly s.grammar m := by
  cases composite : p.kind.isComposite with
  | true =>
    obtain ⟨names, roomy⟩ := built.components found composite
    exact orderly_of_composed built tidy (patternMatches_composed h hm composite roomy) names
  | false =>
    unfold patternMatches at h
    cases kind : p.kind with
    | cell =>
      simp only [kind] at h
      obtain ⟨box, text, cellType, confidence, rfl⟩ := exists_of_cellMatches h hm
      exact .of_children .nil nofun
    | array shape =>
      simp only [kind] at h
      exact arrayMatches_orderly built tidy found (by rw [kind, PatternKind.shape?]) h hm
    | arrayInContext shape =>
      simp only [kind] at h
      exact arrayMatches_orderly built tidy found (by rw [kind, PatternKind.shape?]) h hm
    | general => simp [kind, PatternKind.isComposite] at composite
    | area => simp [kind, PatternKind.isComposite] at composite

end patterns

section run

variable {options : Options α} {cells : List (ClassifiedCell α)} {r : Run α} {w : WaveReport α}
variable {report : PatternReport α} {k : ℕ}
variable (built : g.IsBuilt)
variable (disjoint : cells.Pairwise fun c d => c.cell.box.Apart d.cell.box)
variable (ran : run g options cells = .ok r)

include built ran

/-- Matches in different reports of a run are matches of different patterns. -/
lemma patterns_differ : r.waves.flatten.Pairwise fun a b =>
    ∀ i ∈ a.found, ∀ j ∈ b.found, i.pattern ≠ j.pattern := by
  have nodup : (r.waves.flatten.map (·.pattern)).Nodup :=
    map_pattern_flatten built ran ▸ built.areWaves.nodup
  refine (List.pairwise_map.1 nodup).imp_of_mem fun {a b} ha hb ne i hi j hj => ?_
  rwa [proper_of_mem_run ran ha i hi, proper_of_mem_run ran hb j hj]

include disjoint

/-- The registry that a wave sees is tidy if the waves before it have found orderly matches. -/
lemma tidy_registryBefore
    (earlier : ∀ report ∈ (r.waves.take k).flatten, ∀ m ∈ report.found, Orderly g m) :
    Tidy g (r.registryBefore k) := by
  have inside : (r.waves.take k).flatten.Sublist r.waves.flatten :=
    (List.take_sublist k r.waves).flatten
  have origin : ∀ name, ∀ m ∈ (r.registryBefore k).named name,
      ∃ report ∈ (r.waves.take k).flatten, m ∈ report.found ∧
        name ∈ report.pattern :: g.ancestorNames report.pattern := by
    intro name m hm
    rw [named_registryBefore built ran] at hm
    obtain ⟨report, mem, hm⟩ := List.mem_flatMap.1 hm
    obtain ⟨mem, under⟩ := List.mem_filter.1 mem
    exact ⟨report, mem, hm, List.contains_iff_mem.1 under⟩
  refine ⟨fun name m hm => ?_, fun name m hm => ?_, fun name => ?_⟩
  · obtain ⟨report, mem, hm, -⟩ := origin name m hm
    exact earlier report mem m hm
  · obtain ⟨report, mem, hm, under⟩ := origin name m hm
    rw [proper_of_mem_run ran (inside.subset mem) m hm]
    exact built.mem_cons_ancestorNames.1 under
  · rw [named_registryBefore built ran]
    refine List.pairwise_flatMap.2 ⟨fun report mem => ?_, ?_⟩
    · obtain ⟨_, _, q, -, -, h⟩ := exists_of_mem_run ran (inside.subset (List.mem_filter.1 mem).1)
      refine (recognisePattern_apart disjoint h).imp fun {i j} apart => ?_
      exact fun (_ : i.pattern = j.pattern) => apart
    · have differ := (patterns_differ built ran).sublist inside
      exact (differ.filter _).imp fun ne i hi j hj same => absurd same (ne i hi j hj)

/-- All matches that the waves of a run find are orderly. -/
lemma orderly_of_wave (at_k : r.waves[k]? = some w) (mem : report ∈ w) (hm : m ∈ report.found) :
    Orderly g m := by
  induction k using Nat.strong_induction_on generalizing w report m with
  | _ k ih =>
    have before : Tidy g (r.registryBefore k) := by
      refine tidy_registryBefore built disjoint ran fun report mem m hm => ?_
      obtain ⟨w, hw, mem⟩ := List.mem_flatten.1 mem
      obtain ⟨l, at_l⟩ := List.mem_iff_getElem?.1 hw
      rw [List.getElem?_take, Option.ite_none_right_eq_some] at at_l
      obtain ⟨lt, at_l⟩ := at_l
      exact ih l lt at_l mem hm
    obtain ⟨name, p, found, -, recognised⟩ := exists_of_mem_runWave ran at_k mem
    obtain ⟨all, matched, sub⟩ := recognisePattern_subset recognised
    exact patternMatches_orderly built before found matched (sub hm)

/-- All matches that a run registers are orderly. -/
theorem registered_orderly (hm : m ∈ r.registry.found) : Orderly g m := by
  rw [(run_eq_ok ran).2.1, mem_foldl_registerWave] at hm
  obtain empty | ⟨report, mem, hm⟩ := hm
  · simp [Registry.empty] at empty
  · obtain ⟨w, hw, mem⟩ := List.mem_flatten.1 mem
    obtain ⟨k, at_k⟩ := List.mem_iff_getElem?.1 hw
    exact orderly_of_wave built disjoint ran at_k mem hm

end run

omit [Score α] in
/-- Where no pattern extends another one, no items are mingled. -/
lemma not_mingled (flat : ∀ p ∈ g.patterns.values, p.bases = []) : ¬ Mingled g n i j := by
  intro h
  obtain ⟨p, shape, -, -, up, up'⟩ := h.array
  have alone : ∀ x y, ¬ Extends g.patterns.values x y := by
    rintro x y ⟨q, hq, -, base⟩
    rw [flat q hq] at base
    cases base
  have same : ∀ x, ReflTransGen (Extends g.patterns.values) x shape.item → x = shape.item := by
    intro x up
    cases up.cases_head with
    | inl same => exact same
    | inr step =>
      obtain ⟨y, step, -⟩ := step
      exact absurd step (alone x y)
  exact h.differ ((same _ up).trans (same _ up').symm)

/-- In a run of a built grammar on a sheet that is made by writing and merging, two cells of a
registered match do not overlap, unless one reaches them through two items of one array that are
matches of different patterns. If no pattern extends another one, then they never overlap. -/
theorem cells_apart_or_mingled {sheet : Sheet} {classifier : Classifier α} {options : Options α}
    {r : Run α} (built : g.IsBuilt) (made : sheet.Made)
    (ran : run g options (classifyCells classifier sheet) = .ok r) :
    ∀ m ∈ r.registry.found,
      (m.cells.Pairwise fun a b => a.Apart b ∨
        ∃ n i j : Match α, n.IsWithin m ∧ Mingled g n i j ∧ a ∈ i.cells ∧ b ∈ j.cells) ∧
      ((∀ p ∈ g.patterns.values, p.bases = []) → m.cells.Pairwise Match.Apart) := by
  intro m hm
  have orderly := registered_orderly built (classifyCells_apart made classifier) ran hm
  have pairwise := Match.pairwise_cells orderly
  refine ⟨pairwise, fun flat => pairwise.imp fun or => or.resolve_right ?_⟩
  rintro ⟨n, i, j, -, mingled, -⟩
  exact not_mingled flat mingled

/-- A field of two digits has four cells, since both are taken for small digits, too. -/
theorem cells_apart_or_mingled_field : fieldGrammar.IsBuilt ∧ twoDigits.Made ∧
    ∃ r, run fieldGrammar Options.standard (classifyCells (fun _ => [⟨"d", 1⟩]) twoDigits) = .ok r ∧
      ∃ m ∈ r.registry.found, m.cells.length = 4 ∧
        m.cells.Pairwise fun a b => a.Apart b ∨ ∃ n i j : Match ℚ,
          n.IsWithin m ∧ Mingled fieldGrammar n i j ∧ a ∈ i.cells ∧ b ∈ j.cells := by
  have found : (run fieldGrammar Options.standard digitCells).toOption.any (fun r =>
      r.registry.found.toList.any fun m => m.cells.length == 4) = true := by
    cbv
  obtain ⟨r, ran, found⟩ := Outcome.exists_of_any_toOption found
  obtain ⟨m, hm, four⟩ := List.any_eq_true.1 found
  have hm := Array.mem_toList_iff.1 hm
  exact ⟨isBuilt_fieldGrammar, made_twoDigits, r, ran, m, hm, eq_of_beq four,
    (cells_apart_or_mingled isBuilt_fieldGrammar made_twoDigits ran m hm).1⟩

/-- Two cells of the field, a digit and a small digit, are the same cell of the sheet. -/
theorem field_uses_cell_twice : fieldGrammar.IsBuilt ∧ twoDigits.Made ∧
    ∃ r, run fieldGrammar Options.standard (classifyCells (fun _ => [⟨"d", 1⟩]) twoDigits) = .ok r ∧
      ∃ m ∈ r.registry.found, ¬ m.cells.Pairwise Match.Apart := by
  have found : (run fieldGrammar Options.standard digitCells).toOption.any (fun r =>
      r.registry.found.toList.any fun m =>
        (m.cells.filter (·.points.contains ⟨0, 0⟩)).length == 2) = true := by
    cbv
  obtain ⟨r, ran, found⟩ := Outcome.exists_of_any_toOption found
  obtain ⟨m, hm, two⟩ := List.any_eq_true.1 found
  obtain ⟨a, b, eq⟩ := List.length_eq_two.1 (eq_of_beq two)
  have shared : ∀ c ∈ [a, b], ⟨0, 0⟩ ∈ c.points := by
    intro c hc
    rw [← eq] at hc
    exact List.contains_iff_mem.1 (List.mem_filter.1 hc).2
  refine ⟨isBuilt_fieldGrammar, made_twoDigits, r, ran, m, Array.mem_toList_iff.1 hm,
    fun apart => ?_⟩
  have apart : [a, b].Pairwise Match.Apart := eq ▸ apart.filter _
  exact List.rel_of_pairwise_cons apart List.mem_cons_self (shared a List.mem_cons_self)
    (shared b (List.mem_cons_of_mem a List.mem_cons_self))

end SpatialGrammar.Recognition
