import Mathlib
import SpatialGrammar.Proofs.Recognition.Evaluability
import SpatialGrammar.Proofs.Recognition.Run

/-!
# Grammars whose constraints can be evaluated

A constraint of a pattern that mentions the parent is checked where the pattern is bound, in the
namespace of the pattern that binds it; all other constraints are checked on the match itself. A
grammar is scoped if every constraint only mentions what has a box where it is checked. Main
statements: `compositeConstraints_evaluable` and `patternMatches_onlyOverflows`, what this means for
one pattern, and `run_evaluates`, a run of a scoped grammar never fails for a constraint. It is not
enough that the constraints of a pattern mention its own components only (`local_not_enough`).
-/

namespace SpatialGrammar

variable {α : Type}

/-- The components for which there are boxes when a match of a pattern is checked. Cells and arrays
bind no components, even if some are declared. -/
def Pattern.boundNames (p : Pattern α) : List Name :=
  if p.kind.isComposite then p.components.map (·.name) else []

/-- Every constraint that has to do with a pattern mentions only what has a box where it is
checked. -/
structure Pattern.IsScoped (g : Grammar α) (p : Pattern α) : Prop where
  tame : (∀ c ∈ p.constraints, c.IsTame) ∧ ∀ k ∈ p.components, ∀ c ∈ k.constraints, c.IsTame
  free : ∀ k ∈ p.components, ¬ k.name.IsReserved
  own : ∀ c ∈ p.ownConstraints, c.MentionsOnly p.boundNames
  bound : p.kind.isComposite = true →
    ∀ k ∈ p.components, ∀ c ∈ k.constraints, c.MentionsOnly p.boundNames
  context : p.kind.isComposite = true →
    ∀ k ∈ p.components, ∀ q ∈ g.pattern? k.pattern,
      ∀ c ∈ q.contextConstraints, c.MentionsOnly p.boundNames

/-- Every constraint of a grammar mentions only what has a box where it is checked. -/
def Grammar.IsScoped (g : Grammar α) : Prop := ∀ p ∈ g.patterns.values, p.IsScoped g

lemma Grammar.IsScoped.pattern {g : Grammar α} {name : Name} {p : Pattern α} (h : g.IsScoped)
    (found : g.pattern? name = some p) : p.IsScoped g :=
  h p (NameMap.mem_values_of_get? found)

instance {c : Constraint} {names : List Name} : Decidable (c.MentionsOnly names) :=
  inferInstanceAs (Decidable (∀ v ∈ c.mentions,
    v.component = Name.own ∨ v.component = Name.parent ∨ v.component ∈ names))

/-- Binding a component moves its constraints into the namespace of the pattern that binds it. -/
lemma Constraint.IsTame.mentionsOnly_boundAs {c : Constraint} {names : List Name} {component : Name}
    (tame : c.IsTame) (h : c.MentionsOnly names) (declared : component ∈ names)
    (free : ∀ name ∈ names, ¬ name.IsReserved) : (c.boundAs component).MentionsOnly names := by
  intro v mem
  rw [tame.mentions_boundAs (free component declared)] at mem
  obtain ⟨w, hw, rfl⟩ := List.mem_map.1 mem
  obtain own | parent | other := h w hw
  · exact .inr (.inr (by simpa [Variable.rename, Renaming.binding, own] using declared))
  · exact .inl (by simp [Variable.rename, Renaming.binding, parent, Name.parent, Name.own])
  · have not_own := Name.ne_own_of_not_isReserved (free w.component other)
    have not_parent := Name.ne_parent_of_not_isReserved (free w.component other)
    exact .inr (.inr (by simpa [Variable.rename, Renaming.binding, not_own, not_parent] using other))

namespace Recognition

open Outcome (OnlyOverflows)

variable {g : Grammar α} {p : Pattern α} {name : Name}

/-- The own constraints of a cell or an array can be checked on a match by itself. -/
lemma ownConstraints_evaluable (inScope : p.IsScoped g) (simple : p.kind.isComposite = false) :
    ∀ c ∈ p.ownConstraints, c.IsEvaluable [] := by
  intro c mem
  have mentions := inScope.own c mem
  rw [Pattern.boundNames, simple, if_neg Bool.false_ne_true] at mentions
  exact ⟨(inScope.tame.1 c (List.mem_of_mem_filter mem)).isLawful, mentions⟩

/-- All constraints of a composite pattern can be checked on what is bound to its components. -/
theorem compositeConstraints_evaluable (inScope : g.IsScoped) (found : g.pattern? name = some p)
    (composite : p.kind.isComposite = true) :
    ∀ c ∈ compositeConstraints g p, c.IsEvaluable (p.components.map (·.name)) := by
  have here := inScope.pattern found
  have names : p.boundNames = p.components.map (·.name) := if_pos composite
  have free : ∀ name ∈ p.components.map (·.name), ¬ name.IsReserved :=
    List.forall_mem_map.2 here.free
  intro c mem
  obtain own | inherited := List.mem_append.1 mem
  · exact ⟨(here.tame.1 c (List.mem_of_mem_filter own)).isLawful, names ▸ here.own c own⟩
  · obtain ⟨k, hk, mem⟩ := List.mem_flatMap.1 inherited
    obtain ⟨c, listed, rfl⟩ := List.mem_map.1 mem
    have declared := List.mem_map_of_mem (f := fun k : Component α => k.name) hk
    have good : c.IsTame ∧ c.MentionsOnly (p.components.map (·.name)) := by
      obtain direct | context := List.mem_append.1 listed
      · exact ⟨here.tame.2 k hk c direct, names ▸ here.bound composite k hk c direct⟩
      · cases at_k : g.pattern? k.pattern with
        | none =>
          rw [at_k] at context
          cases context
        | some q =>
          rw [at_k] at context
          have there := inScope.pattern at_k
          exact ⟨there.tame.1 c (List.mem_of_mem_filter context),
            names ▸ here.context composite k hk q at_k c context⟩
    exact ⟨good.1.isLawful.boundAs k.name, good.1.mentionsOnly_boundAs good.2 declared free⟩

variable [Score α] {s : Scene α} {region : Option Region}

lemma arraysEvaluable (inScope : s.grammar.IsScoped) : ArraysEvaluable s := by
  intro name q shape region found kind
  refine arrayMatches_onlyOverflows (ownConstraints_evaluable (inScope.pattern found) ?_)
  rw [kind]
  rfl

/-- The recognition of any pattern of a scoped grammar can check all constraints. -/
theorem patternMatches_onlyOverflows (built : s.grammar.IsBuilt) (inScope : s.grammar.IsScoped)
    (found : s.grammar.pattern? name = some p) : OnlyOverflows (patternMatches s p region) := by
  have here := inScope.pattern found
  unfold patternMatches
  cases kind : p.kind with
  | cell contentType =>
    exact cellMatches_onlyOverflows (ownConstraints_evaluable here (by rw [kind]; rfl))
  | array shape =>
    exact arrayMatches_onlyOverflows (ownConstraints_evaluable here (by rw [kind]; rfl))
  | arrayInContext shape =>
    exact arrayMatches_onlyOverflows (ownConstraints_evaluable here (by rw [kind]; rfl))
  | general =>
    have composite : p.kind.isComposite = true := by rw [kind]; rfl
    obtain ⟨names, roomy⟩ := built.components found composite
    have each := compositeConstraints_evaluable inScope found composite
    exact (structureCandidates_onlyOverflows names roomy each).bind fun _ _ => .ok
  | area =>
    have composite : p.kind.isComposite = true := by rw [kind]; rfl
    obtain ⟨names, roomy⟩ := built.components found composite
    have each := compositeConstraints_evaluable inScope found composite
    exact (areaCandidates_onlyOverflows (arraysEvaluable inScope) names roomy each).bind
      fun _ _ => .ok

section run

variable {options : Options α} {cells : List (ClassifiedCell α)} {waves : List (List Name)}

lemma recogniseWaves_onlyOverflows (built : g.IsBuilt) (inScope : g.IsScoped)
    (same : s.grammar = g) : OnlyOverflows (recogniseWaves s waves) := by
  subst same
  induction waves generalizing s with
  | nil => exact .ok
  | cons names rest ih =>
    have wave : OnlyOverflows (recogniseWave s names) := by
      refine .mapM fun p mem => ?_
      obtain ⟨name, -, found⟩ := List.mem_filterMap.1 mem
      have matched : OnlyOverflows (patternMatches s p none) :=
        patternMatches_onlyOverflows built inScope found
      exact .bind (matched.bind fun _ _ => .ok) fun _ _ => .ok
    -- the scene after a wave has the same grammar, so that the later waves are covered by `ih`
    rw [recogniseWaves]
    refine .bind (wave.bind fun _ _ => .ok) fun next advanced => ?_
    obtain ⟨w, -, eq⟩ := Outcome.bind_eq_ok.1 advanced
    rw [← Outcome.pure_eq_ok.1 eq]
    dsimp only
    exact .bind (ih built inScope) fun _ _ => .ok

/-- A run of a built and scoped grammar never fails because a constraint has no value. -/
theorem run_evaluates (built : g.IsBuilt) (inScope : g.IsScoped) (options : Options α)
    (cells : List (ClassifiedCell α)) (e : ConstraintError) :
    run g options cells ≠ .error (.constraint e) := by
  have waves : OnlyOverflows (recogniseWaves (Scene.initial g options cells) g.waves) :=
    recogniseWaves_onlyOverflows built inScope rfl
  have whole : OnlyOverflows (run g options cells) := waves.bind fun _ _ => .ok
  exact whole e

end run

section witness

/-- The condition that a box is wider than high. -/
def wide (name : Name) : Condition where
  subjects := [name]
  describe names := "wide '" ++ names.headD "" ++ "'"
  variablesOf names := [Variable.of (names.headD "") .width, Variable.of (names.headD "") .height]
  decide?
    | [some w, some h] => some (decide (h < w))
    | _ => none
  substitute σ names := ((σ (Variable.of (names.headD "") .width)).map fun v => [v.component]).getD names

lemma value?_wide (τ : Renaming) (ρ : Assignment) (name : Name) :
    ((wide name).rename τ).value? ρ =
      (wide name).decide? [ρ (Variable.of (τ name) .width), ρ (Variable.of (τ name) .height)] := rfl

lemma isLawful_wide (name : Name) : (wide name).IsLawful where
  decides τ ρ known := by
    obtain ⟨w, hw⟩ := known (Variable.of (τ name) .width) List.mem_cons_self
    obtain ⟨h, hh⟩ := known (Variable.of (τ name) .height) (List.mem_cons_of_mem _ List.mem_cons_self)
    rw [value?_wide, hw, hh]
    exact ⟨decide (h < w), rfl⟩
  keeps τ ρ σ b more decided := by
    rw [value?_wide] at decided ⊢
    cases hw : ρ (Variable.of (τ name) .width) with
    | none =>
      rw [hw] at decided
      cases decided
    | some w =>
      cases hh : ρ (Variable.of (τ name) .height) with
      | none =>
        rw [hw, hh] at decided
        cases decided
      | some h =>
        rw [hw, hh] at decided
        rwa [more _ w hw, more _ h hh]

lemma follows_wide {name : Name} (h : name.canonical = name) : (wide name).Follows := by
  intro τ canonical
  have renamed := canonical.rename_of name
  rw [h] at renamed
  exact congrArg₂ (fun v w => [v, w]) (renamed .width) (renamed .height)

/-- A grammar of records: a word as key, and a line of words behind it. -/
def lineGrammar : Grammar ℚ where
  patterns := ⟨[
    ("line", { name := "line", kind := .array { item := "word", layout := .row },
               constraints := [.extent (Extent.ofSizes none (some (Interval.exact 1)))] }),
    ("record", { name := "record", kind := .general,
                 components := [
                   { name := "key", pattern := "word", weight := 1,
                     constraints := [.formula (.compare (.var ⟨Name.own, .right⟩) .le
                       (.var ⟨"rest", .left⟩))] },
                   { name := "rest", pattern := "line", weight := 1,
                     count := Interval.atMost 1 }],
                 constraints := [.formula (.compare (.var ⟨"key", .left⟩) .eq
                   (.var ⟨Name.own, .left⟩))] }),
    ("word", { name := "word", kind := .cell "text",
               constraints := [.not (.condition (wide Name.own)),
                 .formula (.compare (.var ⟨Name.own, .top⟩) .eq (.var ⟨Name.parent, .top⟩))] })]⟩
  root := "record"
  cellTypes := ⟨[("text", [])]⟩
  options := Options.standard
  ancestors := ⟨[("line", []), ("record", []), ("word", [])]⟩
  waves := [["word"], ["line"], ["record"]]

lemma isBuilt_lineGrammar : lineGrammar.IsBuilt :=
  Grammar.isBuilt_of_build (by with_unfolding_all rfl)

lemma isScoped_lineGrammar : lineGrammar.IsScoped := by
  have plain {c : Constraint} (h : c.conditions = []) : ∀ d ∈ [c], d.IsTame :=
    List.forall_mem_singleton.2 (Constraint.isTame_of_plain h)
  have narrow : (Constraint.not (.condition (wide Name.own))).IsTame :=
    List.forall_mem_singleton.2 ⟨isLawful_wide Name.own, follows_wide rfl⟩
  refine List.forall_mem_cons.2 ⟨?line, List.forall_mem_cons.2 ⟨?record,
    List.forall_mem_singleton.2 ?word⟩⟩
  case line =>
    exact ⟨⟨plain rfl, nofun⟩, by decide, by decide, by decide, by decide⟩
  case record =>
    refine ⟨⟨plain rfl, ?_⟩, by decide, by decide, by decide, by decide⟩
    exact List.forall_mem_cons.2 ⟨plain rfl, List.forall_mem_singleton.2 nofun⟩
  case word =>
    refine ⟨⟨?_, nofun⟩, by decide, by decide, by decide, by decide⟩
    exact List.forall_mem_cons.2 ⟨narrow, plain rfl⟩

/-- Two words with a gap between them. -/
def twoWords : List (ClassifiedCell ℚ) :=
  [⟨⟨"a", Box.unit 0 0⟩, [⟨"text", 1⟩]⟩, ⟨⟨"b", Box.unit 2 0⟩, [⟨"text", 1⟩]⟩]

/-- The second word is bound as the line behind the first one, and all constraints have values. -/
theorem run_evaluates_line : lineGrammar.IsBuilt ∧ lineGrammar.IsScoped ∧
    (∀ e, run lineGrammar Options.standard twoWords ≠ .error (.constraint e)) ∧
      ∃ r, run lineGrammar Options.standard twoWords = .ok r ∧
        (r.roots.map fun m => m.box) = [⟨0, 0, 3, 1⟩] := by
  have found : (run lineGrammar Options.standard twoWords).toOption.any (fun r =>
      (r.roots.map fun m => m.box) = [⟨0, 0, 3, 1⟩]) = true := by
    cbv
  obtain ⟨r, ran, boxes⟩ := Outcome.exists_of_any_toOption found
  exact ⟨isBuilt_lineGrammar, isScoped_lineGrammar,
    run_evaluates isBuilt_lineGrammar isScoped_lineGrammar Options.standard twoWords, r, ran,
    of_decide_eq_true boxes⟩

end witness

section counterexample

/-- The constraints of a pattern mention its own components only. -/
structure LocalOnly (p : Pattern α) : Prop where
  free : ∀ k ∈ p.components, ¬ k.name.IsReserved
  own : ∀ c ∈ p.constraints, c.MentionsOnly (p.components.map (·.name))
  bound : ∀ k ∈ p.components, ∀ c ∈ k.constraints, c.MentionsOnly (p.components.map (·.name))

/-- A grammar of frames around something that is aligned with what is around it. -/
def frameGrammar : Grammar ℚ where
  patterns := ⟨[
    ("digit", { name := "digit", kind := .cell "d" }),
    ("frame", { name := "frame", kind := .general,
                components := [{ name := "q", pattern := "pair", weight := 1 }] }),
    ("pair", { name := "pair", kind := .general,
               components := [{ name := "a", pattern := "digit", weight := 1 }],
               constraints := [.formula (.compare (.var ⟨"a", .left⟩) .ge
                 (.var ⟨Name.parent, .left⟩))] })]⟩
  root := "frame"
  cellTypes := ⟨[("d", ["[0-9]"])]⟩
  options := Options.standard
  ancestors := ⟨[("digit", []), ("frame", []), ("pair", [])]⟩
  waves := [["digit"], ["pair"], ["frame"]]

/-- A grammar of digits, with a component that a cell cannot bind. -/
def labelledGrammar : Grammar ℚ where
  patterns := ⟨[
    ("digit", { name := "digit", kind := .cell "d",
                components := [{ name := "a", pattern := "digit", weight := 1 }],
                constraints := [.formula (.compare (.var ⟨"a", .left⟩) .ge
                  (.var ⟨Name.own, .left⟩))] })]⟩
  root := "digit"
  cellTypes := ⟨[("d", ["[0-9]"])]⟩
  options := Options.standard
  ancestors := ⟨[("digit", [])]⟩
  waves := [["digit"]]

/-- It is not enough that the constraints of every pattern mention its own components only: those
that mention the parent are checked where these components are unknown, and the components of a cell
have no boxes at all. -/
theorem local_not_enough :
    let cells : List (ClassifiedCell ℚ) := [⟨⟨"1", Box.unit 0 0⟩, [⟨"d", 1⟩]⟩]
    let error : ConstraintError := .missingVariable "expression `a_left >= left`" "a_left"
    (frameGrammar.IsBuilt ∧ (∀ p ∈ frameGrammar.patterns.values, LocalOnly p) ∧
      run frameGrammar Options.standard cells = .error (.constraint error)) ∧
    (labelledGrammar.IsBuilt ∧ (∀ p ∈ labelledGrammar.patterns.values, LocalOnly p) ∧
      run labelledGrammar Options.standard cells = .error (.constraint error)) := by
  intro cells error
  refine ⟨⟨?_, ?_, by cbv⟩, ?_, ?_, by cbv⟩
  · exact Grammar.isBuilt_of_build (by with_unfolding_all rfl)
  · refine List.forall_mem_cons.2 ⟨?digit, List.forall_mem_cons.2 ⟨?frame,
      List.forall_mem_singleton.2 ?pair⟩⟩
    case digit => exact ⟨by decide, by decide, by decide⟩
    case frame => exact ⟨by decide, by decide, by decide⟩
    case pair => exact ⟨by decide, by decide, by decide⟩
  · exact Grammar.isBuilt_of_build (by with_unfolding_all rfl)
  · exact List.forall_mem_singleton.2 ⟨by decide, by decide, by decide⟩

end counterexample

end Recognition

end SpatialGrammar
