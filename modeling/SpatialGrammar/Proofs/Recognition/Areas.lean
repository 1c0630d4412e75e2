import SpatialGrammar.Proofs.Recognition.Arbitration
import SpatialGrammar.Proofs.Recognition.Assembly
import SpatialGrammar.Proofs.Registry
import SpatialGrammar.Recognition.Areas

/-!
# How areas are matched

Every draft of an area is assembled from the components whose slots have been dealt with. Main
statements: `Deals.assembled`, one step of the search, `leads_of_completeDrafts` and
`Leads.assembled`, the whole search, and `areaMatches_composed`, what comes out of it.
-/

namespace SpatialGrammar.Recognition

variable {α : Type} {c : Component α} {done : List (Component α)} {ms : List (Match α)}
variable {range left : Region}
variable {ks taken : List (FloatingCandidate α)} {k : FloatingCandidate α}
variable {found made : List (Offer α)}

/-- The candidates without what is known of the areas that can hold them. -/
def grounded (ks : List (FloatingCandidate α)) : List (Candidate α) := ks.map (·.toCandidate)

/-- Every candidate stands for one of the matches. -/
lemma exists_of_floatingCandidates (h : floatingCandidates c ms = .ok ks) (hk : k ∈ ks) :
    ∃ m ∈ ms, k.toCandidate = Candidate.of m := by
  obtain ⟨-, rfl⟩ := Outcome.within_eq_ok.1 h
  obtain ⟨m, hm, eq⟩ := List.mem_filterMap.1 hk
  obtain ⟨parent, -, rfl⟩ := Option.map_eq_some_iff.1 eq
  exact ⟨m, hm, rfl⟩

section gather

lemma taken_takeFitting (room : Option Nat) (range : Region) (occupied : List Point)
    (ks : List (FloatingCandidate α)) :
    Taken room occupied (grounded ks) (grounded (takeFitting room range occupied ks).1) := by
  induction ks generalizing room range occupied with
  | nil => exact .stop room occupied []
  | cons k ks ih =>
    rw [takeFitting]
    split
    next => exact .stop room occupied _
    next more =>
      split
      next free =>
        -- a candidate that leaves no range for the area is passed over as well
        split
        next => exact .skip k.toCandidate (ih room range occupied)
        next => exact .take free more (ih _ _ _)
      next => exact .skip k.toCandidate (ih room range occupied)

/-- What is gathered for a repeated component are enough candidates that are clear of each other. -/
lemma gatherFloating_eq_some (h : gatherFloating c range ks = some (taken, left)) :
    Taken c.maxCount [] (grounded ks) (grounded taken) ∧ taken ≠ [] ∧
      c.admitsCount taken.length = true := by
  simp only [gatherFloating, Option.ite_none_right_eq_some, Bool.and_eq_true] at h
  obtain ⟨⟨some_member, enough⟩, eq⟩ := h
  obtain ⟨rfl, -⟩ := Prod.mk.inj (Option.some.inj eq)
  refine ⟨taken_takeFitting _ _ _ _, ?_, enough⟩
  simpa using some_member

lemma nearest_subset (found : List (Offer α)) : nearest found ⊆ found := by
  cases found with
  | nil => exact List.Subset.refl []
  | cons o rest => exact (List.takeWhile_sublist _).subset

/-- What is to be bound next are candidates of offers, in the order of the offers. -/
lemma sublist_of_choicesOf (h : (taken, left) ∈ choicesOf c range found) :
    (grounded taken).Sublist (grounded (found.map Offer.candidate)) := by
  unfold choicesOf at h
  split at h
  next => exact (gatherFloating_eq_some (Option.mem_toList.1 h)).1.sublist
  next =>
    obtain ⟨o, ho, eq⟩ := List.mem_map.1 h
    obtain ⟨rfl, -⟩ := Prod.mk.inj eq
    have mem := List.mem_map_of_mem (f := Offer.candidate) (nearest_subset found ho)
    exact List.singleton_sublist.2 (List.mem_map_of_mem mem)

/-- What is to be bound next are candidates that are clear of each other, as many as there should
be. -/
lemma mem_choicesOf (roomy : c.HasRoom) (h : (taken, left) ∈ choicesOf c range found) :
    Clear [] (grounded taken) ∧ taken ≠ [] ∧
      c.count.contains (grounded taken).length = true := by
  unfold choicesOf at h
  split at h
  next repeated =>
    obtain ⟨gathered, some_member, enough⟩ := gatherFloating_eq_some (Option.mem_toList.1 h)
    rw [← List.length_map (f := (·.toCandidate))] at enough
    exact ⟨gathered.clear, some_member, gathered.count roomy enough⟩
  next single =>
    obtain ⟨o, -, eq⟩ := List.mem_map.1 h
    obtain ⟨rfl, -⟩ := Prod.mk.inj eq
    have clear : o.candidate.isClearOf [] = true :=
      Candidate.isClearOf_iff.2 fun _ _ => List.not_mem_nil
    exact ⟨Clear.singleton clear, List.cons_ne_nil _ [],
      Component.contains_one (Bool.eq_false_iff.2 single)⟩

end gather

section slots

variable {slot : Slot α} {slots : List (Slot α)} {s : Scene α} {region : Option Region}
variable {p : Pattern α}

/-- The components of slots. -/
def componentsOf (slots : List (Slot α)) : List (Component α) := slots.map (·.component)

lemma componentsOf_cons :
    componentsOf (slot :: slots) = slot.component :: componentsOf slots := rfl

/-- A slot belongs to its component: its candidates serve the component, and it knows whether the
component binds an array in context. -/
structure Slot.Proper [Score α] (s : Scene α) (slot : Slot α) : Prop where
  serving : ∀ k ∈ slot.candidates, k.Serves s slot.component
  inContext : slot.inContext = Slot.arrayInContext? s.grammar slot.component

/-- There is a proper slot for each component. -/
lemma areaSlots_spec [Score α] (h : areaSlots s p region = .ok slots) :
    (componentsOf slots).Perm p.components ∧ ∀ slot ∈ slots, slot.Proper s := by
  simp only [areaSlots, Outcome.bind_eq_ok, Outcome.pure_eq_ok] at h
  obtain ⟨made, making, rfl⟩ := h
  have each := Outcome.mapM_eq_ok.1 making
  have spec : ∀ c slot, Slot.ofComponent s region c = .ok slot →
      slot.component = c ∧ slot.Proper s := by
    intro c slot h
    simp only [Slot.ofComponent, Outcome.bind_eq_ok, Outcome.pure_eq_ok] at h
    obtain ⟨ks, searched, rfl⟩ := h
    refine ⟨rfl, fun k hk => ?_, rfl⟩
    obtain ⟨m, hm, eq⟩ := exists_of_floatingCandidates searched hk
    exact ⟨m, .inl ((Registry.namedIn_sublist _ _ _).subset hm), eq⟩
  constructor
  · have pairs : List.Forall₂ (· = ·) (componentsOf made) p.components :=
      List.forall₂_map_left_iff.2 (each.flip.imp fun slot c made => (spec c slot made).1)
    rw [List.forall₂_eq_eq_eq] at pairs
    rw [← pairs]
    exact (List.mergeSort_perm made Slot.notAfter).map _
  · intro slot hs
    obtain ⟨c, -, made⟩ := Outcome.exists_of_mapM making (List.mem_mergeSort.1 hs)
    exact (spec c slot made).2

/-- The array in context that a component binds is its pattern. -/
lemma arrayInContext?_eq_some {g : Grammar α} {q : Pattern α} {shape : ArrayShape}
    (h : Slot.arrayInContext? g c = some (q, shape)) :
    g.pattern? c.pattern = some q ∧ q.kind = .arrayInContext shape := by
  obtain ⟨q', found, h⟩ := Option.bind_eq_some_iff.1 h
  split at h
  next kind =>
    obtain ⟨rfl, rfl⟩ := Prod.mk.inj (Option.some.inj h)
    exact ⟨found, kind⟩
  next => cases h

end slots

/-- What is left when repetitions are removed was there before. -/
lemma eraseDupsBy_subset {β : Type} {same : β → β → Bool} (xs : List β) :
    xs.eraseDupsBy same ⊆ xs := by
  have loop : ∀ ys zs : List β, List.eraseDupsBy.loop same ys zs ⊆ zs ++ ys := by
    intro ys
    induction ys with
    | nil => simp [List.eraseDupsBy.loop]
    | cons y ys ih =>
      intro zs x hx
      rw [List.eraseDupsBy.loop] at hx
      split at hx
      · have mem := ih zs hx
        simp only [List.mem_append, List.mem_cons] at mem ⊢
        tauto
      · have mem := ih (y :: zs) hx
        simp only [List.mem_append, List.mem_cons] at mem ⊢
        tauto
  exact loop xs []

section search

variable {slot : Slot α} {slots : List (Slot α)} {s : Scene α} {region : Option Region}
variable {p : Pattern α} {m : Match α}
variable [Score α] {constraints : List Constraint} {component : Name} {d e : AreaDraft α}
variable {next out : List (AreaDraft α)} {budget : Nat}

/-- An offer says what its candidate leaves of the range, how far it is from what is bound and how
precise it is. The candidate is allowed beside what is bound. -/
lemma offer_eq_some {o : Offer α} (h : Offer.of? constraints component d k = .ok (some o)) :
    d.allows constraints component k.toCandidate = .ok true ∧
      ∃ range, d.range.combine? k.parent = some range ∧
        o = ⟨k, range, d.distanceTo k.found.box, k.found.precision⟩ := by
  unfold Offer.of? at h
  split at h
  next => cases h
  next range combined =>
    obtain ⟨allowed, h⟩ := Outcome.ite_eq_ok_some.1 h
    simp only [Outcome.bind_eq_ok, Outcome.pure_eq_ok] at h
    obtain ⟨-, -, h⟩ := h
    exact ⟨allowed, range, combined, (Option.some.inj h).symm⟩

lemma exists_of_mem_offers (h : offers constraints component d ks = .ok made) {o : Offer α}
    (ho : o ∈ made) : ∃ k ∈ ks, Offer.of? constraints component d k = .ok (some o) := by
  simp only [offers, Outcome.bind_eq_ok] at h
  obtain ⟨all, offered, h⟩ := h
  obtain ⟨-, rfl⟩ := Outcome.within_eq_ok.1 h
  exact Outcome.exists_of_mapM_option offered (List.mem_mergeSort.1 ho)

/-- An offer comes from a candidate that is clear of what is bound. -/
lemma offers_of_candidates (h : offers constraints component d ks = .ok made) :
    ∀ o ∈ made, o.candidate ∈ ks ∧ o.candidate.isClearOf d.occupied = true := by
  intro o ho
  obtain ⟨k, hk, eq⟩ := exists_of_mem_offers h ho
  obtain ⟨allowed, range, -, rfl⟩ := offer_eq_some eq
  exact ⟨hk, Assembly.isClearOf_of_allows allowed⟩

/-- The candidates of a slot are the ones that it has, unless it binds an array in context that is
recognised again within what is known of the area. -/
lemma candidatesFor_cases (h : candidatesFor s slot d = .ok ks) :
    ks = slot.candidates ∨ ∃ q shape ms, slot.inContext = some (q, shape) ∧
      d.range.minimal?.isSome = true ∧ arrayMatches s q shape true (some d.range) = .ok ms ∧
      floatingCandidates slot.component ms = .ok ks := by
  unfold candidatesFor at h
  split at h
  next => exact .inl (Except.ok.inj h).symm
  next q shape eq =>
    simp only [Outcome.bind_eq_ok] at h
    obtain ⟨-, -, ms, matched, h⟩ := h
    obtain ⟨inContext, definite⟩ := Option.filter_eq_some_iff.1 eq
    exact .inr ⟨q, shape, ms, inContext, definite, matched, h⟩

lemma candidatesFor_serving (proper : slot.Proper s) (h : candidatesFor s slot d = .ok ks) :
    ∀ k ∈ ks, k.Serves s slot.component := by
  obtain rfl | ⟨q, shape, ms, inContext, -, matched, floating⟩ := candidatesFor_cases h
  · exact proper.serving
  · rw [proper.inContext] at inContext
    obtain ⟨found, kind⟩ := arrayInContext?_eq_some inContext
    intro k hk
    obtain ⟨m, hm, eq⟩ := exists_of_floatingCandidates floating hk
    exact ⟨m, .inr ⟨q, shape, _, ms, found, kind, matched, hm⟩, eq⟩

/-- Every draft that binds the component of a slot binds one of the choices among the offers. -/
lemma exists_choice_of_bindNearest (h : bindNearest s constraints slot d = .ok next)
    (he : e ∈ next) : ∃ ks found members left, candidatesFor s slot d = .ok ks ∧
      offers constraints slot.component.name d ks = .ok found ∧
      (members, left) ∈ choicesOf slot.component d.range found ∧
      e = d.bind slot.component.name members left := by
  simp only [bindNearest, Outcome.bind_eq_ok] at h
  obtain ⟨ks, searched, found, offered, h⟩ := h
  obtain ⟨-, rfl⟩ := Outcome.within_eq_ok.1 h
  obtain ⟨⟨members, left⟩, chosen, rfl⟩ := List.mem_map.1 he
  exact ⟨ks, found, members, left, searched, offered, chosen, rfl⟩

/-- Binding the component of a slot binds candidates that are clear of everything. -/
theorem bindNearest_assembled (h : bindNearest s constraints slot d = .ok next)
    (made : Assembled s done d.toAssembly) (roomy : slot.component.HasRoom)
    (proper : slot.Proper s) :
    ∀ e ∈ next, Assembled s (slot.component :: done) e.toAssembly := by
  intro e he
  obtain ⟨ks, found, members, left, searched, offered, chosen, rfl⟩ :=
    exists_choice_of_bindNearest h he
  have part := (sublist_of_choicesOf chosen).subset
  obtain ⟨apart, some_member, count⟩ := mem_choicesOf roomy chosen
  have serving := candidatesFor_serving proper searched
  have origin : ∀ k ∈ grounded members,
      k.Serves s slot.component ∧ k.isClearOf d.occupied = true := by
    intro k hk
    obtain ⟨f, hf, rfl⟩ := List.mem_map.1 (part hk)
    obtain ⟨o, ho, rfl⟩ := List.mem_map.1 hf
    obtain ⟨mem, clear⟩ := offers_of_candidates offered o ho
    exact ⟨serving _ mem, clear⟩
  have outside : Clear d.occupied (grounded members) :=
    ⟨fun k hk => (origin k hk).2, apart.between⟩
  have some_grounded : grounded members ≠ [] := fun e => some_member (List.map_eq_nil_iff.1 e)
  exact made.bind (fun k hk => (origin k hk).1) outside some_grounded count

/-- What a slot makes of a draft: members are bound to its component, or an optional component stays
unbound. -/
def Deals (s : Scene α) (constraints : List Constraint) (slot : Slot α)
    (d e : AreaDraft α) : Prop :=
  (∃ next, bindNearest s constraints slot d = .ok next ∧ e ∈ next) ∨
    slot.component.isOptional = true ∧ e = d

/-- Dealing with a slot deals with its component. -/
lemma Deals.assembled (h : Deals s constraints slot d e) (made : Assembled s done d.toAssembly)
    (roomy : slot.component.HasRoom) (proper : slot.Proper s) :
    Assembled s (slot.component :: done) e.toAssembly := by
  rcases h with ⟨next, bound, he⟩ | ⟨optional, rfl⟩
  · exact bindNearest_assembled bound made roomy proper e he
  · exact made.skip (roomy.contains_zero optional)

/-- Whatever is collected is a result for a member of the list. -/
lemma exists_of_collect {β γ ε : Type} {f : Nat → β → Except ε (List γ)} {xs : List β}
    {ys : List γ} {y : γ} (h : collect f budget xs = .ok ys) (hy : y ∈ ys) :
    ∃ x ∈ xs, ∃ left zs, f left x = .ok zs ∧ y ∈ zs := by
  induction xs generalizing budget ys with
  | nil =>
    rw [collect, Except.ok.injEq] at h
    rw [← h] at hy
    cases hy
  | cons x xs ih =>
    rw [collect] at h
    split at h
    · rw [← Outcome.pure_eq_ok.1 h] at hy
      cases hy
    · simp only [Outcome.bind_eq_ok, Outcome.pure_eq_ok] at h
      obtain ⟨zs, first, rest, later, rfl⟩ := h
      cases List.mem_append.1 hy with
      | inl hy => exact ⟨x, List.mem_cons_self, budget, zs, first, hy⟩
      | inr hy =>
        obtain ⟨x', hx, found⟩ := ih later hy
        exact ⟨x', List.mem_cons_of_mem x hx, found⟩

/-- Every complete draft arises by dealing with the first slot and completing what this gives. -/
lemma exists_of_complete (h : complete s constraints (slot :: slots) budget d = .ok out)
    (he : e ∈ out) : ∃ f, Deals s constraints slot d f ∧
      ∃ left found, complete s constraints slots left f = .ok found ∧ e ∈ found := by
  rw [complete] at h
  split at h
  · rw [← Outcome.pure_eq_ok.1 h] at he
    cases he
  obtain ⟨next, bound, h⟩ := Outcome.bind_eq_ok.1 h
  split at h
  next none =>
    split at h
    next optional => exact ⟨d, .inr ⟨optional, rfl⟩, budget, out, h, he⟩
    next =>
      rw [← Outcome.pure_eq_ok.1 h] at he
      cases he
  next =>
    obtain ⟨f, hf, found⟩ := exists_of_collect h he
    exact ⟨f, .inl ⟨next, bound, hf⟩, found⟩

lemma exists_of_completeDrafts (h : completeDrafts s constraints (slot :: slots) = .ok out)
    (he : e ∈ out) : ∃ f, Deals s constraints slot AreaDraft.empty f ∧
      ∃ left found, complete s constraints slots left f = .ok found ∧ e ∈ found := by
  obtain ⟨entries, bound, h⟩ := Outcome.bind_eq_ok.1 h
  split at h
  next none =>
    split at h
    next optional => exact ⟨_, .inr ⟨optional, rfl⟩, _, out, h, he⟩
    next =>
      rw [← Outcome.pure_eq_ok.1 h] at he
      cases he
  next =>
    simp only [Outcome.bind_eq_ok, Outcome.pure_eq_ok] at h
    obtain ⟨parts, completed, rfl⟩ := h
    obtain ⟨found, hf, he⟩ := List.mem_flatten.1 he
    obtain ⟨f, mem, eq⟩ := Outcome.exists_of_mapM completed hf
    exact ⟨f, .inl ⟨entries, bound, mem⟩, _, found, eq, he⟩

/-- What slots make of a draft, dealt with one after the other. -/
inductive Leads (s : Scene α) (constraints : List Constraint) :
    List (Slot α) → AreaDraft α → AreaDraft α → Prop where
  | nil (d : AreaDraft α) : Leads s constraints [] d d
  | cons {slot slots d e f} (here : Deals s constraints slot d e)
      (later : Leads s constraints slots e f) : Leads s constraints (slot :: slots) d f

/-- Dealing with a slot comes after dealing with those before it. -/
lemma Leads.split {earlier later : List (Slot α)}
    (h : Leads s constraints (earlier ++ slot :: later) d e) :
    ∃ f g, Leads s constraints earlier d f ∧ Deals s constraints slot f g ∧
      Leads s constraints later g e := by
  induction earlier generalizing d with
  | nil =>
    cases h with
    | cons here later => exact ⟨d, _, .nil d, here, later⟩
  | cons first rest ih =>
    cases h with
    | cons here later =>
      obtain ⟨f, g, before, dealt, after⟩ := ih later
      exact ⟨f, g, .cons here before, dealt, after⟩

/-- The search only completes a draft by dealing with the slots one after the other. -/
theorem leads_of_complete (h : complete s constraints slots budget d = .ok out) (he : e ∈ out) :
    Leads s constraints slots d e := by
  induction slots generalizing budget d out with
  | nil =>
    rw [complete, Except.ok.injEq] at h
    rw [← h] at he
    split at he
    · cases he
    · rw [List.mem_singleton.1 he]
      exact .nil d
  | cons slot slots ih =>
    obtain ⟨f, dealt, left, found, completed, he⟩ := exists_of_complete h he
    exact .cons dealt (ih completed he)

theorem leads_of_completeDrafts (h : completeDrafts s constraints slots = .ok out) (he : e ∈ out) :
    Leads s constraints slots AreaDraft.empty e := by
  cases slots with
  | nil =>
    rw [completeDrafts, Except.ok.injEq] at h
    rw [← h] at he
    cases he
  | cons first rest =>
    obtain ⟨f, dealt, left, found, completed, he⟩ := exists_of_completeDrafts h he
    exact .cons dealt (leads_of_complete completed he)

/-- Dealing with slots one after the other deals with their components. -/
theorem Leads.assembled (h : Leads s constraints slots d e)
    (made : Assembled s done d.toAssembly) (roomy : ∀ c ∈ componentsOf slots, c.HasRoom)
    (proper : ∀ slot ∈ slots, slot.Proper s) :
    Assembled s ((componentsOf slots).reverse ++ done) e.toAssembly := by
  induction h generalizing done with
  | nil => exact made
  | cons here _ ih =>
    rw [componentsOf_cons] at roomy ⊢
    rw [List.reverse_cons, List.append_assoc, List.singleton_append]
    obtain ⟨room, roomy⟩ := List.forall_mem_cons.1 roomy
    obtain ⟨first, proper⟩ := List.forall_mem_cons.1 proper
    exact ih (here.assembled made room first) roomy proper

/-- All complete drafts of an area are assembled from all components. -/
theorem completeDrafts_assembled (h : completeDrafts s constraints slots = .ok out)
    (roomy : ∀ c ∈ componentsOf slots, c.HasRoom) (proper : ∀ slot ∈ slots, slot.Proper s) :
    ∀ e ∈ out, Assembled s (componentsOf slots).reverse e.toAssembly := by
  intro e he
  have assembled := (leads_of_completeDrafts h he).assembled .empty roomy proper
  rwa [List.append_nil] at assembled

/-- Whatever the search finds is a finished draft. -/
lemma exists_draft_of_searchArea (h : searchArea s p region slots = .ok ms) (hm : m ∈ ms) :
    ∃ drafts, completeDrafts s (compositeConstraints s.grammar p) slots = .ok drafts ∧
      ∃ d ∈ drafts, ∃ accepts,
        d.finish? p (compositeConstraints s.grammar p) accepts = .ok (some m) := by
  simp only [searchArea, Outcome.bind_eq_ok, Outcome.pure_eq_ok] at h
  obtain ⟨drafts, searched, finished, finishing, rfl⟩ := h
  obtain ⟨d, hd, eq⟩ := Outcome.exists_of_mapM_option finishing hm
  exact ⟨drafts, searched, d, eraseDupsBy_subset drafts hd, _, eq⟩

/-- Whatever is found for an area pattern is a finished draft of all slots. -/
lemma exists_draft_of_areaMatches (h : areaMatches s p region = .ok ms) (hm : m ∈ ms) :
    ∃ slots drafts, areaSlots s p region = .ok slots ∧
      completeDrafts s (compositeConstraints s.grammar p) slots = .ok drafts ∧
      ∃ d ∈ drafts, ∃ accepts,
        d.finish? p (compositeConstraints s.grammar p) accepts = .ok (some m) := by
  simp only [areaMatches, areaCandidates, Outcome.bind_eq_ok, Outcome.pure_eq_ok] at h
  obtain ⟨candidates, ⟨slots, made, h⟩, rfl⟩ := h
  have hm := arbitrate_subset _ _ hm
  split at h
  · rw [← Outcome.pure_eq_ok.1 h] at hm
    cases hm
  obtain ⟨drafts, searched, finished⟩ := exists_draft_of_searchArea h hm
  exact ⟨slots, drafts, made, searched, finished⟩

lemma areaMatches_named (h : areaMatches s p region = .ok ms) (hm : m ∈ ms) :
    m.pattern = p.name := by
  obtain ⟨slots, drafts, -, -, d, -, accepts, eq⟩ := exists_draft_of_areaMatches h hm
  exact pattern_of_finish? eq

/-- Whatever is found for an area pattern is composed of what there is for its components. -/
theorem areaMatches_composed (h : areaMatches s p region = .ok ms) (hm : m ∈ ms)
    (roomy : ∀ c ∈ p.components, c.HasRoom) : Composed s p m := by
  obtain ⟨slots, drafts, made, searched, d, hd, accepts, eq⟩ := exists_draft_of_areaMatches h hm
  obtain ⟨perm, proper⟩ := areaSlots_spec made
  have assembled := completeDrafts_assembled searched (fun c hc => roomy c (perm.mem_iff.1 hc))
    proper d hd
  exact ⟨_, d.toAssembly, accepts, (List.reverse_perm _).trans perm, assembled, eq⟩

end search

end SpatialGrammar.Recognition
