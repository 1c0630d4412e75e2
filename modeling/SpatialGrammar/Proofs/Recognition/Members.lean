import SpatialGrammar.Proofs.Recognition.Listing

/-!
# The order of the members of a component

Several matches can be bound to one component. A structure binds them in the order in which they are
registered; an area binds those first that are nearest to what is bound already. Main statement:
`members_ordered`, in which order a run binds the members of components, and when they are listed
from the top left.
-/

namespace SpatialGrammar

/-- The order in which scores are sorted is total. -/
class Score.IsSorted (α : Type) [Score α] : Prop where
  trans {x y z : α} : sortLE x y = true → sortLE y z = true → sortLE x z = true
  total (x y : α) : sortLE x y = true ∨ sortLE y x = true

instance : Score.IsSorted Rat where
  trans h h' := decide_eq_true ((of_decide_eq_true h).trans (of_decide_eq_true h'))
  total x y := (le_total x y).imp decide_eq_true decide_eq_true

instance : Score.IsSorted Float where
  trans h h' := decide_eq_true (Int.le_trans (of_decide_eq_true h) (of_decide_eq_true h'))
  total x y := (Int.le_total (Float.sortKey x) (Float.sortKey y)).imp decide_eq_true decide_eq_true

namespace Recognition

open Grammar (Extends)
open Relation (ReflTransGen)

variable {α : Type} [Score α] {s : Scene α} {p : Pattern α} {region : Option Region}
variable {constraints : List Constraint} {c : Component α} {m : Match α} {found : List (Match α)}

section structures

variable {ks members : List (Candidate α)} {a : Assembly α} {d e : Draft α}
variable {next drafts out : List (Draft α)} {rest : List (Component α)}

/-- Continuing a draft binds candidates in their order, or leaves the component unbound. -/
lemma exists_members_of_continueDraft (h : continueDraft constraints c ks d = .ok next)
    (he : e ∈ next) : e = d ∨
      ∃ members, members.Sublist ks ∧ e.toAssembly = d.toAssembly.bind c.name members := by
  have step : continueDraft constraints c ks d = (do
    let viable ← ks.filterM (d.allows constraints c.name)
    let more := bindings c viable d
    return if more.isEmpty && c.isOptional then [d] else more) := rfl
  rw [step, Outcome.bind_eq_ok] at h
  obtain ⟨viable, tested, h⟩ := h
  have part := (Outcome.filterM_eq_ok tested).1
  rw [← Outcome.pure_eq_ok.1 h] at he
  split at he
  next => exact .inl (List.mem_singleton.1 he)
  next =>
    unfold bindings at he
    split at he
    next =>
      obtain ⟨members, gathered, rfl⟩ := Option.map_eq_some_iff.1 (Option.mem_toList.1 he)
      exact .inr ⟨members, (gather_eq_some gathered).1.sublist.trans part, rfl⟩
    next =>
      obtain ⟨k, hk, rfl⟩ := List.mem_map.1 he
      exact .inr ⟨[k], (List.singleton_sublist.2 hk).trans part, rfl⟩

/-- The members of all components are bound in the order in which they are registered. -/
def FollowsRegistry (s : Scene α) (p : Pattern α) (region : Option Region) (a : Assembly α) :
    Prop :=
  ∀ c ∈ p.components, (a.membersOf c.name).Sublist (s.registry.namedIn c.pattern region)

omit [Score α] in
lemma FollowsRegistry.bind (h : FollowsRegistry s p region a) (hc : c ∈ p.components)
    (names : (p.components.map (·.name)).Nodup)
    (part : members.Sublist ((s.registry.namedIn c.pattern region).map Candidate.of)) :
    FollowsRegistry s p region (a.bind c.name members) := by
  intro k hk
  rw [Assembly.membersOf_bind]
  split
  next same =>
    obtain rfl := List.inj_on_of_nodup_map names hk hc same
    have eq : ((s.registry.namedIn k.pattern region).map Candidate.of).map (·.found) =
        s.registry.namedIn k.pattern region := by
      rw [List.map_map]
      exact List.map_id _
    exact eq ▸ part.map (·.found)
  next => exact h k hk

theorem bindAll_followsRegistry (h : bindAll s constraints region rest drafts = .ok out)
    (listed : rest ⊆ p.components) (names : (p.components.map (·.name)).Nodup)
    (follows : ∀ d ∈ drafts, FollowsRegistry s p region d.toAssembly) :
    ∀ e ∈ out, FollowsRegistry s p region e.toAssembly := by
  induction rest generalizing drafts with
  | nil =>
    rw [bindAll, Except.ok.injEq] at h
    exact h ▸ follows
  | cons c rest ih =>
    obtain ⟨hc, listed⟩ := List.cons_subset.1 listed
    simp only [bindAll, Outcome.bind_eq_ok] at h
    obtain ⟨next, continued, h⟩ := h
    have bound : ∀ e ∈ next.flatten, FollowsRegistry s p region e.toAssembly := by
      intro e he
      obtain ⟨es, hes, he⟩ := List.mem_flatten.1 he
      obtain ⟨d, hd, eq⟩ := Outcome.exists_of_mapM continued hes
      rcases exists_members_of_continueDraft eq he with rfl | ⟨members, part, bound⟩
      · exact follows e hd
      · rw [bound]
        exact (follows d hd).bind hc names part
    split at h
    next =>
      rw [← Outcome.pure_eq_ok.1 h]
      intro e he
      cases he
    next => exact ih h listed fun e he => bound e (keepBest_subset _ _ he)

theorem structureMatches_followsRegistry (h : structureMatches s p region = .ok found)
    (hm : m ∈ found) (names : (p.components.map (·.name)).Nodup) :
    ∀ c ∈ p.components, (m.boundTo c.name).Sublist (s.registry.namedIn c.pattern region) := by
  obtain ⟨drafts, searched, d, hd, accepts, finished⟩ := exists_draft_of_structureMatches h hm
  obtain ⟨b, -, -, rfl⟩ := finish?_eq_some finished
  refine bindAll_followsRegistry searched (List.Subset.refl _) names (fun e he => ?_) d hd
  rw [List.mem_singleton.1 he]
  exact fun c _ => List.nil_sublist _

end structures

section areas

variable {d e : AreaDraft α} {slot : Slot α} {slots earlier later : List (Slot α)} {name : Name}
variable {ks : List (FloatingCandidate α)} {made : List (Offer α)} {x y z : Offer α}

/-- How far a box is from another one, if there is another one. -/
def distanceFrom (extent : Option Box) (b : Box) : Int :=
  (extent.map (·.distanceToTouch b)).getD 0

/-- A match is not bound after another one: it is nearer to what is bound, or equally near and more
precise, or equal in both and not further from the origin. -/
def BindsBefore (extent : Option Box) (m n : Match α) : Prop :=
  distanceFrom extent m.box < distanceFrom extent n.box ∨
    distanceFrom extent m.box = distanceFrom extent n.box ∧
      (Score.sortLE m.precision n.precision = false ∨
        Score.sortLE n.precision m.precision = true ∧
          m.box.left + m.box.top ≤ n.box.left + n.box.top)

lemma Offer.notWorse_iff : x.notWorse y = true ↔ x.distance < y.distance ∨
    x.distance = y.distance ∧ (Score.sortLE x.precision y.precision = false ∨
      Score.sortLE y.precision x.precision = true ∧ x.remoteness ≤ y.remoteness) := by
  simp only [Offer.notWorse, Bool.or_eq_true, Bool.and_eq_true, decide_eq_true_eq,
    Bool.not_eq_true']

lemma Offer.notWorse_trans [Score.IsSorted α] (h : x.notWorse y = true)
    (h' : y.notWorse z = true) : x.notWorse z = true := by
  have down {u v w : Offer α} (le : Score.sortLE u.precision v.precision = true)
      (le' : Score.sortLE v.precision w.precision = true) :
      Score.sortLE u.precision w.precision = true := Score.IsSorted.trans le le'
  have turn {u v : Offer α} (lt : Score.sortLE u.precision v.precision = false) :
      Score.sortLE v.precision u.precision = true :=
    (Score.IsSorted.total u.precision v.precision).resolve_left (Bool.eq_false_iff.1 lt)
  rw [notWorse_iff] at h h' ⊢
  cases h with
  | inl nearer => cases h' with
    | inl nearer' => exact .inl (nearer.trans nearer')
    | inr same' => exact .inl (same'.1 ▸ nearer)
  | inr same => cases h' with
    | inl nearer' => exact .inl (same.1.trans_lt nearer')
    | inr same' =>
      refine .inr ⟨same.1.trans same'.1, ?_⟩
      cases more : Score.sortLE x.precision z.precision with
      | false => exact .inl rfl
      | true =>
        -- then all three are equally precise
        rcases same.2 with precise | ⟨le, near⟩
        · have le' : Score.sortLE z.precision y.precision = true := same'.2.elim turn And.left
          rw [down more le'] at precise
          cases precise
        · rcases same'.2 with precise' | ⟨le', near'⟩
          · rw [down le more] at precise'
            cases precise'
          · exact .inr ⟨down le' le, near.trans near'⟩

lemma Offer.notWorse_total [Score.IsSorted α] (x y : Offer α) :
    (x.notWorse y || y.notWorse x) = true := by
  rw [Bool.or_eq_true, notWorse_iff, notWorse_iff]
  rcases lt_trichotomy x.distance y.distance with nearer | same | further
  · exact .inl (.inl nearer)
  · cases le : Score.sortLE x.precision y.precision with
    | false => exact .inl (.inr ⟨same, .inl rfl⟩)
    | true =>
      cases ge : Score.sortLE y.precision x.precision with
      | false => exact .inr (.inr ⟨same.symm, .inl rfl⟩)
      | true =>
        exact (le_total x.remoteness y.remoteness).imp (fun near => .inr ⟨same, .inr ⟨rfl, near⟩⟩)
          fun near => .inr ⟨same.symm, .inr ⟨rfl, near⟩⟩
  · exact .inr (.inl further)

lemma offers_bindsBefore [Score.IsSorted α] (h : offers constraints name d ks = .ok made) :
    (made.map (·.candidate.found)).Pairwise (BindsBefore d.extent) := by
  have sorted : made.Pairwise fun o q => o.notWorse q = true := by
    simp only [offers, Outcome.bind_eq_ok] at h
    obtain ⟨all, -, h⟩ := h
    obtain ⟨-, rfl⟩ := Outcome.within_eq_ok.1 h
    refine List.pairwise_mergeSort ?_ ?_ _
    · exact fun _ _ _ => Offer.notWorse_trans
    · exact Offer.notWorse_total
  have told : ∀ o ∈ made, o.distance = distanceFrom d.extent o.candidate.found.box ∧
      o.precision = o.candidate.found.precision := by
    intro o ho
    obtain ⟨k, -, eq⟩ := exists_of_mem_offers h ho
    obtain ⟨-, range, -, rfl⟩ := offer_eq_some eq
    exact ⟨rfl, rfl⟩
  refine List.pairwise_map.2 (sorted.imp_of_mem fun {o q} ho hq notWorse => ?_)
  rw [Offer.notWorse_iff, (told o ho).1, (told o ho).2, (told q hq).1, (told q hq).2] at notWorse
  exact notWorse

omit [Score α] in
lemma map_found_grounded (ks : List (FloatingCandidate α)) :
    (grounded ks).map (·.found) = ks.map (·.found) := List.map_map

omit [Score α] in
lemma AreaDraft.membersOf_bind (d : AreaDraft α) (component other : Name) (range : Region) :
    (d.bind component ks range).membersOf other =
      if other = component then ks.map (·.found) else d.membersOf other :=
  map_found_grounded ks ▸ Assembly.membersOf_bind d.toAssembly component other (grounded ks)

lemma bindNearest_bindsBefore [Score.IsSorted α] {next : List (AreaDraft α)}
    (h : bindNearest s constraints slot d = .ok next) (he : e ∈ next) :
    (e.membersOf slot.component.name).Pairwise (BindsBefore d.extent) := by
  obtain ⟨ks, found, members, left, -, offered, chosen, rfl⟩ := exists_choice_of_bindNearest h he
  have part := (sublist_of_choicesOf chosen).map (·.found)
  rw [map_found_grounded, map_found_grounded, List.map_map] at part
  rw [AreaDraft.membersOf_bind, if_pos rfl]
  exact (offers_bindsBefore offered).sublist part

/-- Dealing with a slot changes nothing about other components. -/
lemma Deals.membersOf_of_ne (h : Deals s constraints slot d e) (ne : name ≠ slot.component.name) :
    e.membersOf name = d.membersOf name := by
  rcases h with ⟨next, bound, he⟩ | ⟨-, rfl⟩
  · obtain ⟨ks, found, members, left, -, -, -, rfl⟩ := exists_choice_of_bindNearest bound he
    rw [AreaDraft.membersOf_bind, if_neg ne]
  · rfl

lemma Leads.membersOf_of_notMem (h : Leads s constraints slots d e)
    (other : name ∉ (componentsOf slots).map (·.name)) : e.membersOf name = d.membersOf name := by
  induction h with
  | nil => rfl
  | cons here _ ih =>
    rw [componentsOf_cons, List.map_cons, List.mem_cons, not_or] at other
    exact (ih other.2).trans (here.membersOf_of_ne other.1)

/-- The boxes of what is bound to some components. -/
def boundBoxes (membersOf : Name → List (Match α)) (components : List (Component α)) : List Box :=
  components.flatMap fun c => (membersOf c.name).map Match.box

omit [Score α] in
lemma boundBoxes_append (membersOf : Name → List (Match α)) (before after : List (Component α)) :
    boundBoxes membersOf (before ++ after) =
      boundBoxes membersOf before ++ boundBoxes membersOf after :=
  List.flatMap_append

/-- The extent of a draft grows by what is bound to a component. -/
lemma Deals.extent_eq (h : Deals s constraints slot d e)
    (unbound : d.membersOf slot.component.name = []) :
    e.extent = Box.hull? (d.extent.toList ++ boundBoxes e.membersOf [slot.component]) := by
  rw [boundBoxes, List.flatMap_singleton]
  rcases h with ⟨next, bound, he⟩ | ⟨-, rfl⟩
  · obtain ⟨ks, found, members, left, -, -, -, rfl⟩ := exists_choice_of_bindNearest bound he
    rw [AreaDraft.membersOf_bind, if_pos rfl, List.map_map]
    rfl
  · rw [unbound]
    cases e.extent <;> rfl

/-- The extent of a draft is the least box around what is bound. -/
lemma Leads.extent_eq (h : Leads s constraints slots d e)
    (names : ((componentsOf slots).map (·.name)).Nodup)
    (unbound : ∀ c ∈ componentsOf slots, d.membersOf c.name = []) :
    e.extent = Box.hull? (d.extent.toList ++ boundBoxes e.membersOf (componentsOf slots)) := by
  induction h with
  | nil d => cases d.extent <;> rfl
  | @cons slot slots d e f here later ih =>
    rw [componentsOf_cons] at names unbound ⊢
    obtain ⟨new, names⟩ := List.nodup_cons.1 names
    obtain ⟨first, unbound⟩ := List.forall_mem_cons.1 unbound
    have still : ∀ c ∈ componentsOf slots, e.membersOf c.name = [] := by
      intro c hc
      refine (here.membersOf_of_ne fun eq => new ?_).trans (unbound c hc)
      exact List.mem_map.2 ⟨c, hc, eq⟩
    have kept : boundBoxes f.membersOf [slot.component] =
        boundBoxes e.membersOf [slot.component] := by
      simp only [boundBoxes, List.flatMap_singleton, later.membersOf_of_notMem new]
    rw [ih names still, here.extent_eq first, Box.hull?_append, List.append_assoc, ← kept,
      ← boundBoxes_append, List.singleton_append]

/-- Each component of an area has been bound to the nearest members first, seen from what had been
bound before. -/
theorem Leads.bindsBefore [Score.IsSorted α]
    (h : Leads s constraints (earlier ++ slot :: later) AreaDraft.empty e)
    (names : ((componentsOf (earlier ++ slot :: later)).map (·.name)).Nodup) :
    (e.membersOf slot.component.name).Pairwise
      (BindsBefore (Box.hull? (boundBoxes e.membersOf (componentsOf earlier)))) := by
  obtain ⟨f, g, before, dealt, after⟩ := h.split
  rw [componentsOf, List.map_append, List.map_cons, List.map_append, List.map_cons] at names
  obtain ⟨first, rest, apart⟩ := List.nodup_append.1 names
  obtain ⟨new, -⟩ := List.nodup_cons.1 rest
  have new' : slot.component.name ∉ (componentsOf earlier).map (·.name) :=
    fun mem => apart _ mem _ List.mem_cons_self rfl
  have kept : boundBoxes e.membersOf (componentsOf earlier) =
      boundBoxes f.membersOf (componentsOf earlier) := by
    refine List.flatMap_congr fun c hc => congrArg (List.map Match.box) ?_
    have mem := List.mem_map_of_mem (f := (·.name)) hc
    have other : c.name ∉ (componentsOf later).map (·.name) :=
      fun mem' => apart _ mem _ (List.mem_cons_of_mem _ mem') rfl
    exact (after.membersOf_of_notMem other).trans
      (dealt.membersOf_of_ne (apart _ mem _ List.mem_cons_self))
  have extent : f.extent = Box.hull? (boundBoxes f.membersOf (componentsOf earlier)) :=
    before.extent_eq first fun _ _ => rfl
  rw [kept, ← extent, after.membersOf_of_notMem new]
  rcases dealt with ⟨next, bound, he⟩ | ⟨-, rfl⟩
  · exact bindNearest_bindsBefore bound he
  · rw [before.membersOf_of_notMem new']
    exact .nil

/-- The components of a match have been bound in some order, each of them to the nearest members
first, seen from what had been bound before. -/
def NearestFirst (m : Match α) (order : List (Component α)) : Prop :=
  ∀ earlier c later, order = earlier ++ c :: later →
    (m.boundTo c.name).Pairwise (BindsBefore (Box.hull? (boundBoxes m.boundTo earlier)))

theorem areaMatches_nearestFirst [Score.IsSorted α] (h : areaMatches s p region = .ok found)
    (hm : m ∈ found) (names : (p.components.map (·.name)).Nodup) :
    ∃ order : List (Component α), order.Perm p.components ∧ NearestFirst m order := by
  obtain ⟨slots, drafts, made, searched, d, hd, accepts, finished⟩ :=
    exists_draft_of_areaMatches h hm
  have led := leads_of_completeDrafts searched hd
  have perm := (areaSlots_spec made).1
  have names' : ((componentsOf slots).map (·.name)).Nodup := (perm.map (·.name)).nodup_iff.2 names
  obtain ⟨b, -, -, rfl⟩ := finish?_eq_some finished
  refine ⟨componentsOf slots, perm, fun earlier c later split => ?_⟩
  obtain ⟨before, rest, rfl, rfl, eq⟩ := List.map_eq_append_iff.1 split
  obtain ⟨slot, after, rfl, rfl, rfl⟩ := List.map_eq_cons_iff.1 eq
  exact led.bindsBefore names'

end areas

section runs

variable {g : Grammar α} {options : Options α} {cells : List (ClassifiedCell α)} {r : Run α}
variable {name d q : Name}

omit [Score α] in
lemma mem_dependencies (general : p.kind = .general) (hc : c ∈ p.components) :
    c.pattern ∈ p.dependencies := by
  simp only [Pattern.dependencies, general]
  exact List.mem_map_of_mem hc

/-- Whatever a run has registered for a pattern has been recognised in the wave of the pattern. -/
lemma exists_wave_of_mem (built : g.IsBuilt) (ran : run g options cells = .ok r)
    (hm : m ∈ r.registry.found) (known : g.pattern? m.pattern = some p) :
    ∃ i names found, g.waves[i]? = some names ∧ m.pattern ∈ names ∧ m ∈ found ∧
      patternMatches { grammar := g, options, cells, registry := r.registryBefore i } p none =
        .ok found := by
  rw [(run_eq_ok ran).2.1, mem_foldl_registerWave] at hm
  rcases hm with none | ⟨report, hr, hm⟩
  · simp [Registry.empty] at none
  obtain ⟨w, hw, mem⟩ := List.mem_flatten.1 hr
  obtain ⟨i, at_i⟩ := List.mem_iff_getElem?.1 hw
  have lt : i < g.waves.length := by
    rw [← (run_eq_ok ran).2.2.1]
    exact (List.getElem?_eq_some_iff.1 at_i).1
  have at_i' := List.getElem?_eq_getElem lt
  obtain ⟨name, q, known', named, recognised⟩ := exists_of_mem_runWave ran at_i mem
  obtain ⟨found, matched, sub⟩ := recognisePattern_subset recognised
  have pattern : m.pattern = report.pattern := proper_of_mem_run ran hr m hm
  have same : p = q := by
    rw [pattern, named, built.name_eq known', known'] at known
    exact (Option.some.inj known).symm
  refine ⟨i, _, found, at_i', ?_, sub hm, same ▸ matched⟩
  rw [← map_pattern_getElem? built ran at_i' at_i, pattern]
  exact List.mem_map_of_mem mem

/-- The patterns in the waves whose matches are registered under a name. -/
def family (g : Grammar α) (name : Name) : List Name :=
  g.waves.flatten.filter fun q => (q :: g.ancestorNames q).contains name

/-- The family of a dependency of a pattern in the waves is in the waves, too. -/
lemma mem_family_iff (built : g.IsBuilt) (mem : name ∈ g.waves.flatten)
    (known : g.pattern? name = some p) (hd : d ∈ p.dependencies) :
    q ∈ family g d ↔ ReflTransGen (Extends g.patterns.values) q d := by
  rw [family, List.mem_filter, List.contains_iff_mem, built.mem_cons_ancestorNames]
  refine and_iff_right_of_imp fun up => ?_
  obtain ⟨hp, named⟩ := built.get?_eq_some.1 known
  refine (built.areWaves.mem_flatten q).2 (((built.areWaves.mem_flatten name).1 mem).trans ?_)
  exact .single ⟨p, hp, named, d, hd, up⟩

/-- The matches of a family are listed from the top left if they are all of one pattern. -/
lemma family_topLeftFirst (built : g.IsBuilt) (ran : run g options cells = .ok r)
    (only : ∀ q ∈ family g d, q ≠ d → r.producedBy q = []) :
    TopLeftFirst ((family g d).flatMap r.producedBy) := by
  refine (flatMap_producedBy_topLeftFirst_iff ran _).2 ?_
  refine (built.areWaves.nodup.filter _).imp_of_mem fun {q q'} hq hq' ne m hm n hn => ?_
  -- of two different patterns at least one is not that of all matches
  by_cases other : q = d
  · rw [only q' hq' fun same => ne (other.trans same.symm)] at hn
    cases hn
  · rw [only q hq other] at hm
    cases hm

/-- A structure binds members as they are registered at the end of the run. -/
lemma boundTo_sublist_family (built : g.IsBuilt) (ran : run g options cells = .ok r)
    (hm : m ∈ r.registry.found) (known : g.pattern? m.pattern = some p) (general : p.kind = .general)
    (hc : c ∈ p.components) :
    (m.boundTo c.name).Sublist ((family g c.pattern).flatMap r.producedBy) := by
  obtain ⟨i, names, found, at_i, mem, hm, matched⟩ := exists_wave_of_mem built ran hm known
  have composite : p.kind.isComposite = true := by rw [general]; rfl
  simp only [patternMatches, general] at matched
  have part : (m.boundTo c.name).Sublist ((r.registryBefore i).named c.pattern) :=
    structureMatches_followsRegistry matched hm (built.components known composite).1 c hc
  rwa [named_dependency built ran at_i mem known (mem_dependencies general hc),
    named_eq_flatMap built ran] at part

omit [Score α] in
/-- A component that is not repeated has at most one member. -/
lemma topLeftFirst_of_counted (counted : c.count.contains found.length = true)
    (single : c.isRepeated = false) : TopLeftFirst found := by
  have stop : c.count.stop = some 1 := by simpa [Component.isRepeated] using single
  have few := (Interval.contains_iff.1 counted).2 1 stop
  cases found with
  | nil => exact .nil
  | cons m rest =>
    cases rest with
    | nil => exact List.pairwise_singleton _ m
    | cons n rest =>
      rw [List.length_cons, List.length_cons] at few
      omega

/-- In a run of a built grammar, a structure lists the members of a component pattern by pattern,
the patterns that extend that of the component in the order of the waves, and each of them with its
matches from the top left. They are all listed from the top left if nothing is found for patterns
that extend that of the component. An area lists the nearest members first, seen from what had been
bound before, and of equally near ones the most precise ones first. The members of a component that
is not repeated are listed from the top left, since there is at most one. -/
theorem members_ordered [Score.IsSorted α] (built : g.IsBuilt) (ran : run g options cells = .ok r)
    (hm : m ∈ r.registry.found) (known : g.pattern? m.pattern = some p) :
    (p.kind = .general → ∀ c ∈ p.components, ∃ family : List Name,
      family.Sublist g.waves.flatten ∧
      (∀ q, q ∈ family ↔ ReflTransGen (Extends g.patterns.values) q c.pattern) ∧
      (m.boundTo c.name).Sublist (family.flatMap r.producedBy) ∧
      (∀ q, TopLeftFirst (r.producedBy q)) ∧
      ((∀ q ∈ family, q ≠ c.pattern → r.producedBy q = []) → TopLeftFirst (m.boundTo c.name))) ∧
    (p.kind = .area → ∃ order : List (Component α),
      order.Perm p.components ∧ NearestFirst m order) ∧
    (p.kind.isComposite = true → ∀ c ∈ p.components, c.isRepeated = false →
      TopLeftFirst (m.boundTo c.name)) := by
  obtain ⟨i, names, found, at_i, mem, hm', matched⟩ := exists_wave_of_mem built ran hm known
  have inside := List.mem_flatten.2 ⟨names, List.mem_of_getElem? at_i, mem⟩
  refine ⟨fun general c hc => ?_, fun area => ?_, fun composite c hc single => ?_⟩
  · have part := boundTo_sublist_family built ran hm known general hc
    refine ⟨family g c.pattern, List.filter_sublist, fun q => ?_, part,
      producedBy_topLeftFirst ran, fun only => ?_⟩
    · exact mem_family_iff built inside known (mem_dependencies general hc)
    · exact (family_topLeftFirst built ran only).sublist part
  · have composite : p.kind.isComposite = true := by rw [area]; rfl
    simp only [patternMatches, area] at matched
    exact areaMatches_nearestFirst matched hm' (built.components known composite).1
  · obtain ⟨names, roomy⟩ := built.components known composite
    have fulfils := (patternMatches_composed matched hm' composite roomy).fulfils names
    exact topLeftFirst_of_counted (fulfils.counted c hc) single

/-- A heap of digits. -/
def heap : Pattern ℚ where
  name := "heap"
  kind := .area
  components := [{ name := "part", pattern := "digit", count := Interval.atLeast 1, weight := 1 }]

/-- A grammar of heaps of digits. -/
def heapGrammar : Grammar ℚ where
  patterns := ⟨[("digit", { name := "digit", kind := .cell "d" }), ("heap", heap)]⟩
  root := "heap"
  cellTypes := ⟨[("d", ["[0-9]"])]⟩
  options := Options.standard
  ancestors := ⟨[("digit", []), ("heap", [])]⟩
  waves := [["digit"], ["heap"]]

lemma isBuilt_heapGrammar : heapGrammar.IsBuilt :=
  Grammar.isBuilt_of_build (by with_unfolding_all rfl)

/-- A digit at the top right, and one at the bottom left, nearer to the corner of the sheet. -/
def twoCorners : Sheet := (Sheet.empty.set ⟨2, 0⟩ "1").set ⟨0, 1⟩ "2"

/-- The digits with their type. -/
def cornerCells : List (ClassifiedCell ℚ) := classifyCells (fun _ => [⟨"d", 1⟩]) twoCorners

/-- The digits of a heap are bound as if nothing had been bound before. -/
theorem members_ordered_heap : heapGrammar.IsBuilt ∧
    ∃ r, run heapGrammar Options.standard cornerCells = .ok r ∧
      ∃ m ∈ r.registry.found, heapGrammar.pattern? m.pattern = some heap ∧
        (m.boundTo "part").length = 2 ∧ (m.boundTo "part").Pairwise (BindsBefore none) := by
  have found : (run heapGrammar Options.standard cornerCells).toOption.any (fun r =>
      r.registry.found.toList.any fun m =>
        m.pattern == "heap" && (m.boundTo "part").length == 2) = true := by
    cbv
  obtain ⟨r, ran, found⟩ := Outcome.exists_of_any_toOption found
  obtain ⟨m, mem, both⟩ := List.any_eq_true.1 found
  obtain ⟨same, two⟩ := (Bool.and_eq_true _ _).mp both
  have hm : m ∈ r.registry.found := Array.mem_toList_iff.1 mem
  have known : heapGrammar.pattern? m.pattern = some heap := eq_of_beq same ▸ rfl
  obtain ⟨order, perm, nearest⟩ := (members_ordered isBuilt_heapGrammar ran hm known).2.1 rfl
  obtain rfl := List.perm_singleton.1 perm
  exact ⟨isBuilt_heapGrammar, r, ran, m, hm, known, eq_of_beq two, nearest [] _ [] rfl⟩

/-- The digit at the bottom left is bound first: both are equally near to what is bound, which is
nothing, and equally precise. -/
theorem members_not_topLeftFirst : heapGrammar.IsBuilt ∧ twoCorners.Made ∧
    ∃ r, run heapGrammar Options.standard cornerCells = .ok r ∧
      ∃ m ∈ r.registry.found, ¬ TopLeftFirst (m.boundTo "part") ∧
        ∃ first, m.firstBoundTo "part" = some first ∧
          ∃ n ∈ m.boundTo "part", ¬ first.BeginsBy n := by
  have found : (run heapGrammar Options.standard cornerCells).toOption.any (fun r =>
      r.registry.found.toList.any fun m =>
        (m.boundTo "part").map (fun n => (n.box.top, n.box.left)) == [(1, 0), (0, 2)]) = true := by
    cbv
  obtain ⟨r, ran, found⟩ := Outcome.exists_of_any_toOption found
  obtain ⟨m, hm, listed⟩ := List.any_eq_true.1 found
  obtain ⟨first, rest, bound, at_first, listed⟩ := List.map_eq_cons_iff.1 (eq_of_beq listed)
  obtain ⟨n, later, rfl, at_n, -⟩ := List.map_eq_cons_iff.1 listed
  have after : ¬ first.BeginsBy n := by
    obtain ⟨top, -⟩ := Prod.mk.inj at_first
    obtain ⟨top', -⟩ := Prod.mk.inj at_n
    rw [Match.BeginsBy]
    omega
  refine ⟨isBuilt_heapGrammar, (Sheet.Made.empty.set _ _).set _ _, r, ran, m,
    Array.mem_toList_iff.1 hm, ?_⟩
  rw [Match.firstBoundTo, bound]
  refine ⟨fun ordered => ?_, first, rfl, n, List.mem_cons_of_mem _ List.mem_cons_self, after⟩
  exact after (List.rel_of_pairwise_cons ordered List.mem_cons_self)

end runs

end Recognition

end SpatialGrammar
