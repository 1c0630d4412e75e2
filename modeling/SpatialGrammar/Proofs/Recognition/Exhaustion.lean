import Mathlib
import SpatialGrammar.Proofs.Grammar.Build
import SpatialGrammar.Proofs.Plane.Region
import SpatialGrammar.Proofs.Recognition.Tuple

/-!
# The search for structures is exhaustive

The search for a structure binds one component after the other, drops whatever the constraints rule
out, and checks what is left at the end. Nothing is lost or found twice on the way: the matches
among the completions of what has been bound stay the same (`Yields`). Main statements:
`continueDraft_yields`, `Yields.step` and `Yields.bindAll`, the steps of the search keep this, and
`structureCandidates_eq_tuples`, with exact numbers and without a cutoff the search finds all tuples
of matches that are matches of the pattern.
-/

namespace SpatialGrammar.Recognition

variable {α : Type}

section listed

variable {s : Scene α} {region : Option Region} {c : Component α} {rest : List (Component α)}
variable {t : Tuple α}

/-- All tuples of registered matches for some components, within a region if one is given. -/
def tuplesFor (s : Scene α) (region : Option Region) : List (Component α) → List (Tuple α)
  | [] => [[]]
  | c :: rest => (s.registry.namedIn c.pattern region).flatMap fun m =>
      (tuplesFor s region rest).map fun t => (c, m) :: t

/-- The tuples for some components have a registered match for each of them, in order. -/
theorem mem_tuplesFor : t ∈ tuplesFor s region rest ↔
    t.map (·.1) = rest ∧ ∀ e ∈ t, e.2 ∈ s.registry.namedIn e.1.pattern region := by
  induction rest generalizing t with
  | nil => cases t <;> simp [tuplesFor]
  | cons c rest ih =>
    simp only [tuplesFor, List.mem_flatMap, List.mem_map, ih]
    constructor
    · rintro ⟨m, hm, t, ⟨rfl, listed⟩, rfl⟩
      exact ⟨rfl, List.forall_mem_cons.2 ⟨hm, listed⟩⟩
    · rintro ⟨covers, listed⟩
      obtain ⟨⟨d, m⟩, t, rfl, rfl, tail⟩ := List.map_eq_cons_iff.1 covers
      obtain ⟨hm, listed⟩ := List.forall_mem_cons.1 listed
      exact ⟨m, hm, t, ⟨tail, listed⟩, rfl⟩

/-- No tuple is listed twice if no match is registered twice. -/
theorem nodup_tuplesFor (each : ∀ c ∈ rest, (s.registry.namedIn c.pattern region).Nodup) :
    (tuplesFor s region rest).Nodup := by
  induction rest with
  | nil => exact List.nodup_singleton []
  | cons c rest ih =>
    obtain ⟨first, each⟩ := List.forall_mem_cons.1 each
    refine List.nodup_flatMap.2 ⟨fun m _ => (ih each).map fun t u eq => (List.cons.inj eq).2, ?_⟩
    refine first.imp fun {m n} ne t ht hu => ?_
    obtain ⟨t, -, rfl⟩ := List.mem_map.1 ht
    obtain ⟨u, -, eq⟩ := List.mem_map.1 hu
    exact ne (Prod.mk.inj (List.cons.inj eq).1).2.symm

/-- The tuples that begin with a given one and go on with some components. -/
def completions (s : Scene α) (region : Option Region) (rest : List (Component α)) (t : Tuple α) :
    List (Tuple α) :=
  (tuplesFor s region rest).map fun u => t ++ u

lemma completions_nil : completions s region [] = fun t => [t] := by
  funext t
  simp [completions, tuplesFor]

/-- A tuple is completed by one match for the next component, and then for the other ones. -/
lemma completions_cons : completions s region (c :: rest) t =
    (s.registry.namedIn c.pattern region).flatMap fun m =>
      completions s region rest (t ++ [(c, m)]) := by
  simp only [completions, tuplesFor, List.map_flatMap, List.map_map, Function.comp_def,
    List.append_assoc, List.singleton_append]

end listed

/-- Every component of a pattern binds one match, and the constraints are about these matches and
the box of the pattern. -/
structure BindsOneEach (g : Grammar α) (p : Pattern α) : Prop where
  single : ∀ c ∈ p.components, c.count = Interval.exact 1
  free : ∀ c ∈ p.components, ¬ c.name.IsReserved
  lawful : ∀ k ∈ compositeConstraints g p, k.IsLawful
  mentions : ∀ k ∈ compositeConstraints g p, ∀ v ∈ k.mentions,
    v.component = Name.own ∨ v.component ∈ p.components.map (·.name)

section search

variable {s : Scene α} {p : Pattern α} {region : Option Region} {c : Component α}
variable {rest : List (Component α)} {t u : Tuple α}

/-- A part of a tuple that the search may come across when it has yet to bind some components. -/
structure Tuple.IsPartial (s : Scene α) (p : Pattern α) (region : Option Region)
    (rest : List (Component α)) (t : Tuple α) : Prop where
  covers : t.map (·.1) ++ rest = p.components
  listed : ∀ e ∈ t, e.2 ∈ s.registry.namedIn e.1.pattern region
  apart : t.IsApart

/-- The matches of a pattern among some tuples. -/
def tupleMatches (g : Grammar α) (p : Pattern α) (ts : List (Tuple α)) : List (Match α) :=
  ts.filterMap (Tuple.toMatch? p (compositeConstraints g p))

namespace Tuple.IsPartial

lemma nil : IsPartial s p region p.components [] := ⟨rfl, nofun, .nil⟩

/-- The completions of a part of a tuple are tuples for all components. -/
lemma covers_completion (h : t.IsPartial s p region rest)
    (mem : u ∈ completions s region rest t) : u.map (·.1) = p.components := by
  obtain ⟨w, hw, rfl⟩ := List.mem_map.1 mem
  rw [List.map_append, (mem_tuplesFor.1 hw).1]
  exact h.covers

lemma mayLieIn_hull {own : Box} (h : t.IsPartial s p region rest) (hull : t.hull? = some own) :
    mayLieIn region own = true := by
  cases region with
  | none => rfl
  | some region =>
    refine Region.mayContain_hull hull fun b hb => ?_
    obtain ⟨e, he, rfl⟩ := List.mem_map.1 hb
    exact Registry.mayContain_of_mem_namedIn (h.listed e (List.mem_of_mem_filter he))

variable [Score α] {m : Match α}

lemma concat (h : t.IsPartial s p region (c :: rest))
    (hm : m ∈ s.registry.namedIn c.pattern region)
    (clear : (Candidate.of m).isClearOf t.draft.occupied = true) :
    IsPartial s p region rest (t ++ [(c, m)]) where
  covers := by
    rw [List.map_append, List.append_assoc]
    exact h.covers
  listed := List.forall_mem_append.2 ⟨h.listed, List.forall_mem_singleton.2 hm⟩
  apart := by
    refine List.pairwise_append.2 ⟨h.apart, List.pairwise_singleton _ _, fun e he d hd => ?_⟩
    rw [List.mem_singleton.1 hd]
    rw [occupied_draft, Candidate.isClearOf_iff] at clear
    exact fun q hq hm => clear q hm (List.mem_flatMap.2 ⟨e, he, hq⟩)

end Tuple.IsPartial

lemma free_of_covers (plain : BindsOneEach s.grammar p) (covers : u.map (·.1) = p.components) :
    ∀ e ∈ u, ¬ e.1.name.IsReserved :=
  fun e he => plain.free e.1 (covers ▸ List.mem_map_of_mem he)

lemma nodup_names_of_covers (names : (p.components.map (·.name)).Nodup)
    (covers : u.map (·.1) = p.components) : (u.map fun e => e.1.name).Nodup := by
  rw [← covers, List.map_map] at names
  exact names

lemma flatMap_filter_of_nil {β γ : Type} {xs : List β} {test : β → Bool} {f : β → List γ}
    (h : ∀ x ∈ xs, test x = false → f x = []) : (xs.filter test).flatMap f = xs.flatMap f := by
  induction xs with
  | nil => rfl
  | cons x xs ih =>
    obtain ⟨first, others⟩ := List.forall_mem_cons.1 h
    cases passed : test x with
    | true => rw [List.filter_cons_of_pos passed, List.flatMap_cons, List.flatMap_cons, ih others]
    | false =>
      rw [List.filter_cons_of_neg (Bool.not_eq_true _ ▸ passed), List.flatMap_cons, first passed,
        List.nil_append, ih others]

variable [Score α] {drafts next out : List (Draft α)} {found : List (Match α)}

/-- Drafts that have yet to bind some components stand for parts of tuples, and the matches among
the completions of these are the ones to be found. -/
def Yields (s : Scene α) (p : Pattern α) (region : Option Region) (rest : List (Component α))
    (drafts : List (Draft α)) (found : List (Match α)) : Prop :=
  ∃ ts : List (Tuple α), drafts = ts.map Tuple.draft ∧ (∀ t ∈ ts, t.IsPartial s p region rest) ∧
    tupleMatches s.grammar p (ts.flatMap (completions s region rest)) = found

variable (plain : BindsOneEach s.grammar p) (names : (p.components.map (·.name)).Nodup)

include plain names

/-- The search continues a part of a tuple by those matches after which there may still be a match
among the completions. -/
theorem continueDraft_yields (part : t.IsPartial s p region (c :: rest))
    (h : continueDraft (compositeConstraints s.grammar p) c
      ((s.registry.namedIn c.pattern region).map Candidate.of) t.draft = .ok next) :
    Yields s p region rest next
      (tupleMatches s.grammar p (completions s region (c :: rest) t)) := by
  have mem : c ∈ p.components := part.covers ▸ List.mem_append_right _ List.mem_cons_self
  simp only [continueDraft, Outcome.bind_eq_ok, Outcome.pure_eq_ok,
    Component.isRepeated_of_single (plain.single c mem), Bool.false_eq_true, if_false,
    Component.isOptional_of_single (plain.single c mem), Bool.and_false] at h
  obtain ⟨viable, filtered, rfl⟩ := h
  obtain ⟨test, tested, rfl⟩ := Outcome.exists_filter_of_filterM filtered
  rw [List.forall_mem_map] at tested
  refine ⟨((s.registry.namedIn c.pattern region).filter (test ∘ Candidate.of)).map fun m =>
    t ++ [(c, m)], ?_, List.forall_mem_map.2 fun m hm => ?_, ?_⟩
  · rw [List.filter_map, List.map_map, List.map_map]
    exact List.map_congr_left fun m _ => (Tuple.draft_concat t (c, m)).symm
  · obtain ⟨listed, passed⟩ := List.mem_filter.1 hm
    refine part.concat listed (Assembly.isClearOf_of_allows ((tested m listed).trans ?_))
    exact congrArg Except.ok passed
  · rw [completions_cons, List.flatMap_map, tupleMatches, tupleMatches, List.filterMap_flatMap,
      List.filterMap_flatMap]
    refine flatMap_filter_of_nil fun m listed failed => List.filterMap_eq_nil_iff.2 fun u hu => ?_
    have covers : u.map (·.1) = p.components := part.covers_completion <| by
      rw [completions_cons]
      exact List.mem_flatMap.2 ⟨m, listed, hu⟩
    obtain ⟨w, -, rfl⟩ := List.mem_map.1 hu
    refine Tuple.toMatch?_eq_none_of_allows (nodup_names_of_covers names covers)
      (free_of_covers plain covers) plain.lawful (List.append_cons t (c, m) w).symm
      ((tested m listed).trans ?_)
    exact congrArg Except.ok failed

omit plain names in
lemma Yields.append {more : List (Draft α)} {found' : List (Match α)}
    (h : Yields s p region rest drafts found) (h' : Yields s p region rest more found') :
    Yields s p region rest (drafts ++ more) (found ++ found') := by
  obtain ⟨ts, rfl, parts, rfl⟩ := h
  obtain ⟨us, rfl, parts', rfl⟩ := h'
  refine ⟨ts ++ us, List.map_append.symm, List.forall_mem_append.2 ⟨parts, parts'⟩, ?_⟩
  rw [List.flatMap_append, tupleMatches, List.filterMap_append]
  rfl

omit plain names in
/-- Once there are no drafts left nothing is found any more. -/
lemma Yields.eq_nil (h : Yields s p region rest [] found) : found = [] := by
  obtain ⟨ts, none, -, rfl⟩ := h
  rw [List.map_eq_nil_iff.1 none.symm]
  rfl

/-- Binding the next component keeps what is to be found. -/
lemma Yields.step {nexts : List (List (Draft α))} (h : Yields s p region (c :: rest) drafts found)
    (continued : drafts.mapM (continueDraft (compositeConstraints s.grammar p) c
      ((s.registry.namedIn c.pattern region).map Candidate.of)) = .ok nexts) :
    Yields s p region rest nexts.flatten found := by
  obtain ⟨ts, rfl, parts, rfl⟩ := h
  induction ts generalizing nexts with
  | nil =>
    rw [← Outcome.pure_eq_ok.1 continued]
    exact ⟨[], rfl, List.forall_mem_nil _, rfl⟩
  | cons t ts ih =>
    obtain ⟨part, parts⟩ := List.forall_mem_cons.1 parts
    simp only [List.map_cons, List.mapM_cons, Outcome.bind_eq_ok, Outcome.pure_eq_ok] at continued
    obtain ⟨next, first, nexts, others, rfl⟩ := continued
    rw [List.flatMap_cons, tupleMatches, List.filterMap_append]
    exact (continueDraft_yields plain names part first).append (ih others parts)

/-- The attempts to finish the drafts of whole tuples tell what is found. -/
lemma Yields.finish {results : List (Option (Match α))} (h : Yields s p region [] drafts found)
    (finished : drafts.mapM (fun d =>
      d.finish? p (compositeConstraints s.grammar p) (mayLieIn region)) = .ok results) :
    results.filterMap id = found := by
  obtain ⟨ts, rfl, parts, rfl⟩ := h
  rw [List.mapM_map] at finished
  have each : results = ts.map (Tuple.toMatch? p (compositeConstraints s.grammar p)) := by
    refine Outcome.eq_map_of_mapM finished fun t ht result eq => ?_
    have part := parts t ht
    have covers : t.map (·.1) = p.components := by
      rw [← part.covers, List.append_nil]
    refine Tuple.eq_toMatch?_of_finish? (nodup_names_of_covers names covers)
      (free_of_covers plain covers) plain.lawful (fun k hk v hv => ?_) covers part.apart
      (fun own hull => part.mayLieIn_hull hull) eq
    refine (plain.mentions k hk v hv).imp_right fun declared => ?_
    rw [← covers, List.map_map] at declared
    exact List.mem_map.1 declared
  rw [each, List.filterMap_map, Function.id_comp, completions_nil, List.flatMap_singleton',
    tupleMatches]

end search

section exact

variable {s : Scene ℚ} {p : Pattern ℚ} {region : Option Region} {name : Name}
variable {c : Component ℚ} {rest : List (Component ℚ)} {t : Tuple ℚ}
variable {drafts out : List (Draft ℚ)} {found : List (Match ℚ)}

lemma score_bind (d : Draft ℚ) (c : Component ℚ) (m : Match ℚ) :
    (d.bind c [Candidate.of m]).score = d.score + c.weight * m.precision := by
  simp [Draft.bind, Score.mean, Score.sum, Score.add, Score.mul, Score.div, Score.neutral,
    Score.ofNat, Candidate.of]

lemma score_draft_nonneg (nonneg : ∀ e ∈ t, 0 ≤ e.1.weight ∧ 0 ≤ e.2.precision) :
    0 ≤ t.draft.score := by
  induction t using List.reverseRecOn with
  | nil => exact le_rfl
  | append_singleton t e ih =>
    obtain ⟨before, last⟩ := List.forall_mem_append.1 nonneg
    obtain ⟨weight, precision⟩ := List.forall_mem_singleton.1 last
    rw [Tuple.draft_concat, score_bind]
    exact add_nonneg (ih before) (mul_nonneg weight precision)

/-- Without a cutoff no draft is dropped for its score. -/
lemma keepBest_zero (nonneg : ∀ d ∈ drafts, 0 ≤ d.score) : keepBest 0 drafts = drafts := by
  cases drafts with
  | nil => rfl
  | cons first others =>
    refine List.filter_eq_self.2 fun d hd => ?_
    simpa [Score.le, Score.mul] using nonneg d hd

variable (plain : BindsOneEach s.grammar p) (names : (p.components.map (·.name)).Nodup)
variable (cutoff : s.options.cutoffRatio = 0) (weights : ∀ c ∈ p.components, 0 ≤ c.weight)
variable (precisions : ∀ c ∈ p.components, ∀ m ∈ s.registry.namedIn c.pattern region,
  0 ≤ m.precision)

include weights precisions in
lemma Yields.score_nonneg (h : Yields s p region rest drafts found) :
    ∀ d ∈ drafts, 0 ≤ d.score := by
  obtain ⟨ts, rfl, parts, -⟩ := h
  refine List.forall_mem_map.2 fun t ht => score_draft_nonneg fun e he => ?_
  have part := parts t ht
  have mem : e.1 ∈ p.components :=
    part.covers ▸ List.mem_append_left rest (List.mem_map_of_mem he)
  exact ⟨weights e.1 mem, precisions e.1 mem e.2 (part.listed e he)⟩

include plain names cutoff weights precisions in
/-- Binding all components keeps what is to be found. -/
theorem Yields.bindAll (h : Yields s p region rest drafts found)
    (bound : bindAll s (compositeConstraints s.grammar p) region rest drafts = .ok out) :
    Yields s p region [] out found := by
  induction rest generalizing drafts with
  | nil =>
    rw [Recognition.bindAll, Except.ok.injEq] at bound
    exact bound ▸ h
  | cons c rest ih =>
    simp only [Recognition.bindAll, Outcome.bind_eq_ok] at bound
    obtain ⟨nexts, continued, bound⟩ := bound
    have next := h.step plain names continued
    split at bound
    next none =>
      rw [none] at next
      rw [← Outcome.pure_eq_ok.1 bound, next.eq_nil]
      exact ⟨[], rfl, List.forall_mem_nil _, rfl⟩
    next =>
      rw [cutoff, keepBest_zero (next.score_nonneg weights precisions)] at bound
      exact ih next bound

/-- With exact numbers and without a cutoff, the search for a structure each component of which binds
one match finds the tuples of registered matches that do not overlap and on which all constraints
are true, each of them once, unless an integer leaves the words. -/
theorem structureCandidates_eq_tuples (built : s.grammar.IsBuilt)
    (pattern : s.grammar.pattern? name = some p) (kind : p.kind = .general)
    (plain : BindsOneEach s.grammar p) (cutoff : s.options.cutoffRatio = 0)
    (precisions : ∀ c ∈ p.components, ∀ m ∈ s.registry.namedIn c.pattern region, 0 ≤ m.precision)
    (fits : structureCandidates s p region ≠ .error .overflow) :
    structureCandidates s p region =
      .ok (tupleMatches s.grammar p (tuplesFor s region p.components)) := by
  obtain ⟨-, names, proper⟩ := built.composite pattern (by rw [kind]; rfl)
  have weights : ∀ c ∈ p.components, 0 ≤ c.weight := fun c hc => of_decide_eq_true (proper c hc).2
  have each : ∀ k ∈ compositeConstraints s.grammar p,
      k.IsEvaluable (p.components.map (·.name)) := fun k hk =>
    ⟨plain.lawful k hk, fun v hv => (plain.mentions k hk v hv).imp_right .inr⟩
  obtain ⟨found, result⟩ := (structureCandidates_onlyOverflows names
    (fun c hc => (proper c hc).1) each).exists_ok fits
  rw [result]
  simp only [structureCandidates, Outcome.bind_eq_ok, Outcome.pure_eq_ok] at result
  obtain ⟨drafts, bound, results, finished, rfl⟩ := result
  have start : Yields s p region p.components [Draft.empty]
      (tupleMatches s.grammar p (tuplesFor s region p.components)) := by
    refine ⟨[[]], rfl, List.forall_mem_singleton.2 .nil, ?_⟩
    simp [completions]
  have final := start.bindAll plain names cutoff weights precisions bound
  rw [final.finish plain names finished]

end exact

section witness

/-- Two digits side by side. -/
def sideBySide : Pattern ℚ where
  name := "pair"
  kind := .general
  components := [{ name := "a", pattern := "digit", weight := 1 },
    { name := "b", pattern := "digit", weight := 1 }]
  constraints := [.formula (.compare (.var ⟨"a", .right⟩) .le (.var ⟨"b", .left⟩)),
    .formula (.within (.var ⟨Name.own, .width⟩) (Interval.atMost 2))]

/-- A row of three digits, and a grammar of pairs. -/
def digitRow : Scene ℚ where
  grammar := {
    patterns := ⟨[("digit", { name := "digit", kind := .cell "d" }), ("pair", sideBySide)]⟩
    root := "pair"
    cellTypes := ⟨[("d", ["[0-9]"])]⟩
    options := Options.standard
    ancestors := ⟨[("digit", []), ("pair", [])]⟩
    waves := [["digit"], ["pair"]] }
  options := { Options.standard with cutoffRatio := 0 }
  cells := []
  registry := [0, 1, 2].foldl (fun r x => r.register (.cell "digit" (Box.unit x 0) "1" "d" 1) [])
    Registry.empty

/-- Of the nine pairs of digits in a row of three, two are side by side and in order. -/
theorem structureCandidates_eq_tuples_row :
    digitRow.grammar.IsBuilt ∧ BindsOneEach digitRow.grammar sideBySide ∧
      (tuplesFor digitRow none sideBySide.components).length = 9 ∧
      structureCandidates digitRow sideBySide none =
        .ok (tupleMatches digitRow.grammar sideBySide
          (tuplesFor digitRow none sideBySide.components)) ∧
      (tupleMatches digitRow.grammar sideBySide
        (tuplesFor digitRow none sideBySide.components)).map Match.box =
          [⟨0, 0, 2, 1⟩, ⟨1, 0, 2, 1⟩] := by
  have built : digitRow.grammar.IsBuilt := Grammar.isBuilt_of_build (by with_unfolding_all rfl)
  have plain : BindsOneEach digitRow.grammar sideBySide := by
    refine ⟨by decide, by decide, ?_, by decide⟩
    have listed : compositeConstraints digitRow.grammar sideBySide = sideBySide.constraints := rfl
    rw [listed]
    exact List.forall_mem_cons.2 ⟨Constraint.isLawful_of_plain rfl,
      List.forall_mem_singleton.2 (Constraint.isLawful_of_plain rfl)⟩
  have pattern : digitRow.grammar.pattern? "pair" = some sideBySide := rfl
  have precisions : ∀ c ∈ sideBySide.components,
      ∀ m ∈ digitRow.registry.namedIn c.pattern none, 0 ≤ m.precision := by
    decide +kernel
  have fits : structureCandidates digitRow sideBySide none ≠ .error .overflow := by
    intro overflow
    have found : (structureCandidates digitRow sideBySide none).toOption.isSome = true := by cbv
    rw [overflow] at found
    cases found
  exact ⟨built, plain, by cbv,
    structureCandidates_eq_tuples built pattern rfl plain rfl precisions fits, by cbv⟩

end witness

end SpatialGrammar.Recognition
