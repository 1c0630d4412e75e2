import SpatialGrammar.Proofs.Recognition.Arbitration
import SpatialGrammar.Proofs.Recognition.Assembly
import SpatialGrammar.Proofs.Registry
import SpatialGrammar.Recognition.Structures

/-!
# How structures are matched

Every draft of a structure is assembled from the components that have been dealt with so far. Main
statements: `continueDraft_assembled`, one step of the search, `bindAll_assembled`, the whole
search, and `structureMatches_composed`, what comes out of it.
-/

namespace SpatialGrammar.Recognition

variable {α : Type} {c : Component α} {ks viable members : List (Candidate α)}
variable {done : List (Component α)}

lemma taken_takeClear (room : Option Nat) (occupied : List Point) (ks : List (Candidate α)) :
    Taken room occupied ks (takeClear room occupied ks) := by
  induction ks generalizing room occupied with
  | nil => exact .stop room occupied []
  | cons k ks ih =>
    rw [takeClear]
    split
    next => exact .stop room occupied (k :: ks)
    next more =>
      split
      next free => exact .take free more (ih _ _)
      next => exact .skip k (ih room occupied)

/-- What is gathered for a repeated component are enough candidates that are clear of each other. -/
lemma gather_eq_some (h : gather c viable = some members) :
    Taken c.maxCount [] viable members ∧ members ≠ [] ∧ c.admitsCount members.length = true := by
  simp only [gather, Option.ite_none_right_eq_some, Bool.and_eq_true] at h
  obtain ⟨⟨some_member, enough⟩, eq⟩ := h
  rw [← Option.some.inj eq]
  refine ⟨taken_takeClear _ _ _, ?_, enough⟩
  simpa using some_member

variable [Score α] {constraints : List Constraint} {d e : Draft α} {next : List (Draft α)}
variable {s : Scene α} {region : Option Region} {rest : List (Component α)}
variable {drafts out : List (Draft α)} {p : Pattern α} {m : Match α} {found : List (Match α)}

/-- The drafts that bind candidates to a component. -/
def bindings (c : Component α) (viable : List (Candidate α)) (d : Draft α) : List (Draft α) :=
  if c.isRepeated then ((gather c viable).map fun members => d.bind c members).toList
  else viable.map fun k => d.bind c [k]

lemma bindings_assembled (made : Assembled s done d.toAssembly) (roomy : c.HasRoom)
    (serving : ∀ k ∈ viable, k.Serves s c)
    (clear : ∀ k ∈ viable, k.isClearOf d.occupied = true) :
    ∀ e ∈ bindings c viable d, Assembled s (c :: done) e.toAssembly := by
  intro e he
  unfold bindings at he
  split at he
  next repeated =>
    obtain ⟨ms, gathered, rfl⟩ := Option.map_eq_some_iff.1 (Option.mem_toList.1 he)
    obtain ⟨taken, some_member, enough⟩ := gather_eq_some gathered
    have outside : Clear d.occupied ms :=
      ⟨fun k hk => clear k (taken.subset hk), taken.clear.between⟩
    exact made.bind (fun k hk => serving k (taken.subset hk)) outside some_member
      (taken.count roomy enough)
  next single =>
    obtain ⟨k, hk, rfl⟩ := List.mem_map.1 he
    refine made.bind (fun j hj => ?_) (Clear.singleton (clear k hk)) (List.cons_ne_nil k [])
      (Component.contains_one (Bool.eq_false_iff.2 single))
    rw [List.mem_singleton.1 hj]
    exact serving k hk

/-- Continuing a draft with a component either binds candidates that are clear of everything, or
leaves an optional component unbound. -/
theorem continueDraft_assembled (h : continueDraft constraints c ks d = .ok next)
    (made : Assembled s done d.toAssembly) (roomy : c.HasRoom) (serving : ∀ k ∈ ks, k.Serves s c) :
    ∀ e ∈ next, Assembled s (c :: done) e.toAssembly := by
  have step : continueDraft constraints c ks d = (do
    let viable ← ks.filterM (d.allows constraints c.name)
    let more := bindings c viable d
    return if more.isEmpty && c.isOptional then [d] else more) := rfl
  rw [step, Outcome.bind_eq_ok] at h
  obtain ⟨viable, found, h⟩ := h
  obtain ⟨part, allowed⟩ := Outcome.filterM_eq_ok found
  have bound := bindings_assembled made roomy (fun k hk => serving k (part.subset hk)) fun k hk =>
    Assembly.isClearOf_of_allows (allowed k hk)
  rw [← Outcome.pure_eq_ok.1 h]
  split
  next skipped =>
    intro e he
    rw [List.mem_singleton.1 he]
    exact made.skip (roomy.contains_zero (Bool.and_eq_true_iff.1 skipped).2)
  next => exact bound

lemma keepBest_subset (cutoff : α) (drafts : List (Draft α)) : keepBest cutoff drafts ⊆ drafts := by
  cases drafts with
  | nil => exact List.Subset.refl []
  | cons first rest => exact List.filter_subset_self _

/-- Binding components one after the other gives drafts that are assembled from them. -/
theorem bindAll_assembled (h : bindAll s constraints region rest drafts = .ok out)
    (made : ∀ d ∈ drafts, Assembled s done d.toAssembly) (roomy : ∀ c ∈ rest, c.HasRoom) :
    ∀ e ∈ out, Assembled s (rest.reverse ++ done) e.toAssembly := by
  -- `done` are the components that all drafts have dealt with, the last one first
  induction rest generalizing drafts done with
  | nil =>
    rw [bindAll, Except.ok.injEq] at h
    rw [← h]
    exact made
  | cons c rest ih =>
    rw [List.reverse_cons, List.append_assoc, List.singleton_append]
    simp only [bindAll, Outcome.bind_eq_ok] at h
    obtain ⟨next, continued, h⟩ := h
    have bound : ∀ e ∈ next.flatten, Assembled s (c :: done) e.toAssembly := by
      intro e he
      obtain ⟨es, hes, he⟩ := List.mem_flatten.1 he
      obtain ⟨d, hd, eq⟩ := Outcome.exists_of_mapM continued hes
      refine continueDraft_assembled eq (made d hd) (roomy c List.mem_cons_self) ?_ e he
      intro k hk
      obtain ⟨m, hm, rfl⟩ := List.mem_map.1 hk
      exact ⟨m, .inl ((Registry.namedIn_sublist _ _ _).subset hm), rfl⟩
    split at h
    next none =>
      rw [← Outcome.pure_eq_ok.1 h]
      exact nofun
    next =>
      refine ih h (fun e he => bound e (keepBest_subset _ _ he)) fun k hk => ?_
      exact roomy k (List.mem_cons_of_mem c hk)

/-- The search for a structure assembles its drafts from all components. -/
lemma drafts_assembled (h : bindAll s constraints region p.components [Draft.empty] = .ok drafts)
    (roomy : ∀ c ∈ p.components, c.HasRoom) :
    ∀ d ∈ drafts, Assembled s p.components.reverse d.toAssembly := by
  have start : ∀ d ∈ [(Draft.empty : Draft α)], Assembled s [] d.toAssembly := by
    intro d hd
    rw [List.mem_singleton.1 hd]
    exact .empty
  have made := bindAll_assembled h start roomy
  rwa [List.append_nil] at made

/-- Whatever is found for a structure pattern is a finished draft of all components. -/
lemma exists_draft_of_structureMatches (h : structureMatches s p region = .ok found)
    (hm : m ∈ found) :
    ∃ drafts, bindAll s (compositeConstraints s.grammar p) region p.components [Draft.empty] =
      .ok drafts ∧ ∃ d ∈ drafts, ∃ accepts,
        d.finish? p (compositeConstraints s.grammar p) accepts = .ok (some m) := by
  simp only [structureMatches, structureCandidates, Outcome.bind_eq_ok, Outcome.pure_eq_ok] at h
  obtain ⟨candidates, ⟨drafts, searched, finished, finishing, rfl⟩, rfl⟩ := h
  obtain ⟨d, hd, eq⟩ := Outcome.exists_of_mapM_option finishing (arbitrate_subset _ _ hm)
  exact ⟨drafts, searched, d, hd, _, eq⟩

lemma structureMatches_named (h : structureMatches s p region = .ok found) (hm : m ∈ found) :
    m.pattern = p.name := by
  obtain ⟨drafts, -, d, -, accepts, eq⟩ := exists_draft_of_structureMatches h hm
  exact pattern_of_finish? eq

/-- Whatever is found for a structure pattern is composed of what there is for its components. -/
theorem structureMatches_composed (h : structureMatches s p region = .ok found) (hm : m ∈ found)
    (roomy : ∀ c ∈ p.components, c.HasRoom) : Composed s p m := by
  obtain ⟨drafts, searched, d, hd, accepts, eq⟩ := exists_draft_of_structureMatches h hm
  have made := drafts_assembled searched roomy d hd
  exact ⟨_, d.toAssembly, accepts, List.reverse_perm _, made, eq⟩

end SpatialGrammar.Recognition
