import SpatialGrammar.Proofs.Constraint.Composition
import SpatialGrammar.Proofs.Constraint.Locality
import SpatialGrammar.Proofs.Constraint.Placement
import SpatialGrammar.Proofs.Recognition.Areas

/-!
# What members leave for their area

While an area is searched, its range narrows with every member that is bound, and candidates that
leave no range are passed over. No area is lost by that. Main statements: `exists_rangeAfter?_iff`,
the range consists of the boxes that the placements of all members admit as parent,
`Narrows.rangeAfter?`, the drafts of the search have this range, and `narrowing_lossless`, the areas
that satisfy the constraints of the members stay within it.
-/

namespace SpatialGrammar

/-- An assignment gives the attributes of a name the values that they have for a box. -/
def Assignment.Shows (ρ : Assignment) (name : Name) (b : Box) : Prop :=
  ∀ a, ρ ⟨name, a⟩ = some (a.of b)

variable {ρ : Assignment} {member area : Box}

/-- An assignment that shows the two boxes of a placement decides it. -/
lemma Placement.value?_of_shows {p : Placement} (names : p.component.canonical ≠ p.parent.canonical)
    (own : ρ.Shows p.component.canonical member) (around : ρ.Shows p.parent.canonical area) :
    p.value? ρ = some (p.admits member area) := by
  let boxes : Name → Option Box := fun name =>
    if name = p.component.canonical then some member
    else if name = p.parent.canonical then some area else none
  have hc : boxes p.component.canonical = some member := if_pos rfl
  have hp : boxes p.parent.canonical = some area := by simp [boxes, names.symm]
  rw [Placement.value?, ← value?_toFormula hc hp]
  refine Formula.value?_congr _ fun v mem => ?_
  obtain ⟨s, rfl | rfl⟩ := mem_mentions mem
  · exact (own _).trans (congrArg (Option.map (Attribute.ofSide s).of) hc).symm
  · exact (around _).trans (congrArg (Option.map (Attribute.ofSide s).of) hp).symm

namespace Component

variable {α : Type} {c : Component α}

/-- The placements of a component are about the component and the area around it. -/
def PlacesItself (c : Component α) : Prop :=
  ∀ p ∈ c.locations, p.component.canonical = Name.own ∧ p.parent.canonical = Name.parent

/-- The constraints of a component are true of a member and an area around it, for some values of
all other variables. -/
def Accepts (c : Component α) (member area : Box) : Prop :=
  ∃ ρ : Assignment, ρ.Shows Name.own member ∧ ρ.Shows Name.parent area ∧
    ∀ constraint ∈ c.constraints, constraint.value? ρ = some true

/-- Constraints that are true of a member and an area admit the area as its parent. -/
lemma Accepts.admits (h : c.Accepts member area) (itself : c.PlacesItself) :
    ∀ p ∈ c.locations, p.admits member area = true := by
  intro p hp
  obtain ⟨ρ, own, around, all⟩ := h
  obtain ⟨constraint, listed, mem⟩ := List.mem_flatMap.1 hp
  obtain ⟨hc, ha⟩ := itself p hp
  have apart : p.component.canonical ≠ p.parent.canonical := by
    rw [hc, ha]
    decide
  have decided := Placement.value?_of_shows apart (hc ▸ own) (ha ▸ around)
  rw [Constraint.value?_of_mem_placements (all constraint listed) mem] at decided
  exact (Option.some.inj decided).symm

end Component

namespace Recognition

variable {α : Type} {c : Component α} {m : Match α} {k : FloatingCandidate α}
variable {range left : Region} {members more : List (Component α × Match α)}
variable {ks taken : List (FloatingCandidate α)} {found : List (Offer α)}

/-- A match is a candidate whose range consists of the areas that its placements admit. -/
lemma exists_floatingCandidate?_iff :
    (∃ s, (floatingCandidate? c m).map (·.parent) = some s ∧ s.admits area = true) ↔
      ∀ p ∈ c.locations, p.admits m.box area = true := by
  have parents : (floatingCandidate? c m).map (·.parent) =
      narrowParent? m.box Region.unbounded c.locations := by
    rw [floatingCandidate?, Option.map_map]
    exact Option.map_id'
  rw [parents, narrowParent?, Region.exists_foldlM_combine?_iff,
    and_iff_right Region.admits_unbounded]
  exact forall₂_congr fun _ _ => Placement.exists_parentRegion?_iff

/-- The range that is left of one when members are bound one after the other, if any is left. -/
def rangeAfter? (range : Region) (members : List (Component α × Match α)) : Option Region :=
  members.foldlM (fun range member => do
    range.combine? (← (floatingCandidate? member.1 member.2).map (·.parent))) range

lemma rangeAfter?_append :
    rangeAfter? range (members ++ more) = (rangeAfter? range members).bind (rangeAfter? · more) :=
  List.foldlM_append

/-- The range that is left consists of the areas that the placements of all members admit. -/
theorem exists_rangeAfter?_iff :
    (∃ t, rangeAfter? range members = some t ∧ t.admits area = true) ↔ range.admits area = true ∧
      ∀ member ∈ members, ∀ p ∈ member.1.locations, p.admits member.2.box area = true := by
  rw [rangeAfter?, Region.exists_foldlM_combine?_iff]
  exact and_congr_right fun _ => forall₂_congr fun _ _ => exists_floatingCandidate?_iff

/-- An area that the components of all members accept is in the range that they leave. -/
lemma exists_rangeAfter?_of_accepts {p : Pattern α} {bound : List (Component α × Match α)}
    (itself : ∀ c ∈ p.components, c.PlacesItself) (listed : ∀ e ∈ bound, e.1 ∈ p.components)
    (accepted : ∀ e ∈ bound, e.1.Accepts e.2.box area) :
    ∃ range, rangeAfter? Region.unbounded bound = some range ∧ range.admits area = true :=
  exists_rangeAfter?_iff.2 ⟨Region.admits_unbounded, fun e he =>
    (accepted e he).admits (itself e.1 (listed e he))⟩

/-- Candidates are the ones that their matches make for a component. -/
def AreFloating (c : Component α) (ks : List (FloatingCandidate α)) : Prop :=
  ∀ k ∈ ks, floatingCandidate? c k.found = some k

lemma found_of_floatingCandidate? (h : floatingCandidate? c m = some k) : k.found = m := by
  obtain ⟨parent, -, rfl⟩ := Option.map_eq_some_iff.1 h
  rfl

lemma areFloating_of_floatingCandidates {ms : List (Match α)}
    (h : floatingCandidates c ms = .ok ks) : AreFloating c ks := by
  obtain ⟨-, rfl⟩ := Outcome.within_eq_ok.1 h
  intro k hk
  obtain ⟨m, -, eq⟩ := List.mem_filterMap.1 hk
  rwa [found_of_floatingCandidate? eq]

lemma ofComponent_eq_ok {s : Scene α} {region : Option Region} {slot : Slot α}
    (h : Slot.ofComponent s region c = .ok slot) :
    slot.component = c ∧ AreFloating c slot.candidates := by
  simp only [Slot.ofComponent, Outcome.bind_eq_ok, Outcome.pure_eq_ok] at h
  obtain ⟨ks, searched, rfl⟩ := h
  exact ⟨rfl, areFloating_of_floatingCandidates searched⟩

/-- The members of a component that candidates stand for. -/
def membersFor (c : Component α) (ks : List (FloatingCandidate α)) :
    List (Component α × Match α) := ks.map fun k => (c, k.found)

lemma rangeAfter?_cons (floating : floatingCandidate? c k.found = some k) :
    rangeAfter? range (membersFor c (k :: ks)) =
      (range.combine? k.parent).bind (rangeAfter? · (membersFor c ks)) := by
  simp only [rangeAfter?, membersFor, List.map_cons, List.foldlM_cons, floating, Option.map_some,
    Option.bind_eq_bind, Option.bind_some]

/-- What is taken for a repeated component leaves the range that comes with it. -/
lemma rangeAfter?_takeFitting (room : Option Nat) (range : Region) (occupied : List Point)
    (floating : AreFloating c ks) :
    rangeAfter? range (membersFor c (takeFitting room range occupied ks).1) =
      some (takeFitting room range occupied ks).2 := by
  induction ks generalizing room range occupied with
  | nil => rfl
  | cons k ks ih =>
    obtain ⟨here, later⟩ := List.forall_mem_cons.1 floating
    rw [takeFitting]
    split
    next => rfl
    next =>
      split
      next =>
        split
        next => exact ih _ _ _ later
        next narrowed combined =>
          rw [rangeAfter?_cons here, combined, Option.bind_some]
          exact ih _ _ _ later
      next => exact ih _ _ _ later

/-- What is to be bound next leaves the range that comes with it. -/
lemma rangeAfter?_choicesOf (floating : AreFloating c (found.map (·.candidate)))
    (fitting : ∀ o ∈ found, range.combine? o.candidate.parent = some o.range)
    (h : (taken, left) ∈ choicesOf c range found) :
    rangeAfter? range (membersFor c taken) = some left := by
  unfold choicesOf at h
  split at h
  next repeated =>
    have gathered := Option.mem_toList.1 h
    simp only [gatherFloating, Option.ite_none_right_eq_some] at gathered
    obtain ⟨rfl, rfl⟩ := Prod.mk.inj (Option.some.inj gathered.2)
    exact rangeAfter?_takeFitting _ _ _ floating
  next single =>
    obtain ⟨o, ho, eq⟩ := List.mem_map.1 h
    obtain ⟨rfl, rfl⟩ := Prod.mk.inj eq
    have mem := nearest_subset found ho
    rw [rangeAfter?_cons (floating o.candidate (List.mem_map_of_mem mem)), fitting o mem]
    rfl

section search

variable [Score α] {s : Scene α} {region : Option Region} {constraints : List Constraint}
variable {slot : Slot α} {slots : List (Slot α)} {p : Pattern α} {d e : AreaDraft α}
variable {next out : List (AreaDraft α)}

lemma areFloating_of_candidatesFor (floating : AreFloating slot.component slot.candidates)
    (h : candidatesFor s slot d = .ok ks) : AreFloating slot.component ks := by
  obtain rfl | ⟨-, -, ms, -, -, -, found⟩ := candidatesFor_cases h
  · exact floating
  · exact areFloating_of_floatingCandidates found

/-- An offer comes with the range that its candidate leaves. -/
lemma range_of_offers {name : Name} (h : offers constraints name d ks = .ok found) :
    ∀ o ∈ found, d.range.combine? o.candidate.parent = some o.range := by
  intro o ho
  obtain ⟨k, -, eq⟩ := exists_of_mem_offers h ho
  obtain ⟨-, range, combined, rfl⟩ := offer_eq_some eq
  exact combined

/-- Binding the component of a slot narrows the range of a draft by the members that are bound. -/
lemma bindNearest_narrows (floating : AreFloating slot.component slot.candidates)
    (h : bindNearest s constraints slot d = .ok next) (he : e ∈ next) :
    ∃ ks, e.bound = d.bound.insert slot.component.name (ks.map (·.found)) ∧
      rangeAfter? d.range (membersFor slot.component ks) = some e.range := by
  obtain ⟨ks, found, taken, left, searched, offered, chosen, rfl⟩ :=
    exists_choice_of_bindNearest h he
  have offering : AreFloating slot.component (found.map (·.candidate)) := by
    intro k hk
    obtain ⟨o, ho, rfl⟩ := List.mem_map.1 hk
    exact areFloating_of_candidatesFor floating searched _ (offers_of_candidates offered o ho).1
  refine ⟨taken, ?_, rangeAfter?_choicesOf offering (range_of_offers offered) chosen⟩
  exact congrArg (d.bound.insert _) (List.map_map ..)

/-- The drafts that the search reaches by binding components in some order, each with its members
in the order in which they are bound. -/
inductive Reaches (s : Scene α) (p : Pattern α) (region : Option Region)
    (constraints : List Constraint) : List (Component α × Match α) → AreaDraft α → Prop where
  | empty : Reaches s p region constraints [] AreaDraft.empty
  | bind {bound d c slot next e ms} (prior : Reaches s p region constraints bound d)
      (listed : c ∈ p.components) (made : Slot.ofComponent s region c = .ok slot)
      (tried : bindNearest s constraints slot d = .ok next) (chosen : e ∈ next)
      (members : e.bound = d.bound.insert c.name ms) :
      Reaches s p region constraints (bound ++ ms.map fun m => (c, m)) e

/-- The range of a draft is what its members leave. -/
theorem Reaches.rangeAfter? {bound : List (Component α × Match α)}
    (h : Reaches s p region constraints bound d) :
    Recognition.rangeAfter? Region.unbounded bound = some d.range ∧
      ∀ member ∈ bound, member.1 ∈ p.components := by
  induction h with
  | empty => exact ⟨rfl, nofun⟩
  | @bind bound d c slot next e ms prior listed made tried chosen members ih =>
    obtain ⟨rfl, floating⟩ := ofComponent_eq_ok made
    obtain ⟨ks, eq, narrowed⟩ := bindNearest_narrows floating tried chosen
    have same : ms = ks.map (·.found) := by
      have found := NameMap.get?_insert_self d.bound slot.component.name ms
      rw [← members, eq, NameMap.get?_insert_self] at found
      exact (Option.some.inj found).symm
    have pairs : (ms.map fun m => (slot.component, m)) = membersFor slot.component ks := by
      rw [same, List.map_map]
      rfl
    refine ⟨?_, List.forall_mem_append.2 ⟨ih.2, List.forall_mem_map.2 fun _ _ => listed⟩⟩
    rw [pairs, rangeAfter?_append, ih.1]
    exact narrowed

/-- Dealing with a slot leads to a draft that the search reaches. -/
lemma Reaches.deals {bound : List (Component α × Match α)}
    (h : Reaches s p region constraints bound d) (listed : c ∈ p.components)
    (made : Slot.ofComponent s region c = .ok slot) (dealt : Deals s constraints slot d e) :
    ∃ bound', Reaches s p region constraints bound' e := by
  rcases dealt with ⟨next, tried, chosen⟩ | ⟨-, rfl⟩
  · obtain ⟨rfl, floating⟩ := ofComponent_eq_ok made
    obtain ⟨ks, eq, -⟩ := bindNearest_narrows floating tried chosen
    exact ⟨_, h.bind listed made tried chosen eq⟩
  · exact ⟨bound, h⟩

/-- Dealing with slots one after the other leads to drafts that the search reaches. -/
lemma Reaches.leads (from_components : ∀ slot ∈ slots, ∃ c ∈ p.components,
      Slot.ofComponent s region c = .ok slot) {bound : List (Component α × Match α)}
    (h : Reaches s p region constraints bound d) (led : Leads s constraints slots d e) :
    ∃ bound', Reaches s p region constraints bound' e := by
  induction led generalizing bound with
  | nil => exact ⟨bound, h⟩
  | cons here _ ih =>
    obtain ⟨⟨c, listed, made⟩, later⟩ := List.forall_mem_cons.1 from_components
    obtain ⟨bound', reached⟩ := h.deals listed made here
    exact ih later reached

/-- The search for areas reaches all complete drafts. -/
theorem reaches_of_completeDrafts (made : areaSlots s p region = .ok slots)
    (completed : completeDrafts s constraints slots = .ok out) (he : e ∈ out) :
    ∃ bound, Reaches s p region constraints bound e := by
  have from_components : ∀ slot ∈ slots, ∃ c ∈ p.components,
      Slot.ofComponent s region c = .ok slot := by
    simp only [areaSlots, Outcome.bind_eq_ok, Outcome.pure_eq_ok] at made
    obtain ⟨listed, making, rfl⟩ := made
    exact fun slot hs => Outcome.exists_of_mapM making (List.mem_mergeSort.1 hs)
  exact Reaches.empty.leads from_components (leads_of_completeDrafts completed he)

/-- Narrowing loses no area. Take members of components of a pattern whose placements are about the
component and its parent. An area that satisfies the constraints of all members is in the range that
is left when these are bound in any order. If a further match is dropped as a candidate, or leaves
nothing of the range, then no area satisfies its constraints and those of the members. The drafts of
a search have the range that is left by what they bind. -/
theorem narrowing_lossless (p : Pattern α) (itself : ∀ c ∈ p.components, c.PlacesItself) :
    (∀ bound : List (Component α × Match α), (∀ e ∈ bound, e.1 ∈ p.components) →
      (∀ area, (∀ e ∈ bound, e.1.Accepts e.2.box area) → ∀ order, order.Perm bound →
        ∃ range, rangeAfter? Region.unbounded order = some range ∧ range.admits area = true) ∧
      ∀ range, rangeAfter? Region.unbounded bound = some range → ∀ c ∈ p.components, ∀ m,
        (floatingCandidate? c m = none ∨
          ∃ k, floatingCandidate? c m = some k ∧ range.combine? k.parent = none) →
        ∀ area, ¬ (c.Accepts m.box area ∧ ∀ e ∈ bound, e.1.Accepts e.2.box area)) ∧
    ∀ s region constraints,
      (∀ bound d, Reaches s p region constraints bound d →
        rangeAfter? Region.unbounded bound = some d.range ∧ ∀ e ∈ bound, e.1 ∈ p.components) ∧
      ∀ slots drafts, areaSlots s p region = .ok slots →
        completeDrafts s constraints slots = .ok drafts →
        ∀ d ∈ drafts, ∃ bound, Reaches s p region constraints bound d := by
  refine ⟨fun bound listed => ⟨fun area accepted order perm => ?_,
    fun range narrowed c hc m nothing area ⟨accepts, accepted⟩ => ?_⟩,
    fun s region constraints => ⟨fun bound d reached => reached.rangeAfter?,
      fun slots drafts made completed d hd => reaches_of_completeDrafts made completed hd⟩⟩
  · exact exists_rangeAfter?_of_accepts itself (fun e he => listed e (perm.mem_iff.1 he))
      fun e he => accepted e (perm.mem_iff.1 he)
  · have all : ∀ e ∈ bound ++ [(c, m)], e.1 ∈ p.components ∧ e.1.Accepts e.2.box area :=
      List.forall_mem_append.2 ⟨fun e he => ⟨listed e he, accepted e he⟩,
        List.forall_mem_singleton.2 ⟨hc, accepts⟩⟩
    obtain ⟨left, eq, -⟩ := exists_rangeAfter?_of_accepts itself (fun e he => (all e he).1)
      fun e he => (all e he).2
    rw [rangeAfter?_append, narrowed, Option.bind_some] at eq
    obtain dropped | ⟨k, kept, apart⟩ := nothing
    · simp [rangeAfter?, dropped] at eq
    · simp [rangeAfter?, kept, apart] at eq

end search

section witness

/-- A component that lies above its area. -/
def heading : Component ℚ where
  name := "head"
  pattern := "line"
  constraints := [.placement (.ofSides {} (SideMap.set {} .top (Interval.exact 0)) true)]
  weight := 1

/-- A component that begins in the first row of its area. -/
def content : Component ℚ where
  name := "body"
  pattern := "line"
  constraints := [.conj [.placement (.ofSides (SideMap.set {} .top (Interval.exact 0)) {} true),
    .formula (.compare (.var ⟨"head", .bottom⟩) .le (.var ⟨Name.parent, .top⟩))]]
  weight := 1

/-- A board with a heading above it. -/
def boardArea : Pattern ℚ where
  name := "board"
  kind := .area
  components := [heading, content]

/-- A line of some cells. -/
def lineMatch (b : Box) : Match ℚ := .cell "line" b "a" "w" 1

/-- A heading in the first row leaves the boards that begin in the second row, one of which it
accepts. A line in the fourth row cannot begin such a board. -/
theorem narrowing_lossless_board :
    (∀ c ∈ boardArea.components, c.PlacesItself) ∧
    heading.Accepts ⟨1, 0, 8, 1⟩ ⟨1, 1, 8, 8⟩ ∧
    (∃ range, rangeAfter? Region.unbounded [(heading, lineMatch ⟨1, 0, 8, 1⟩)] = some range ∧
      range.admits ⟨1, 1, 8, 8⟩ = true) ∧
    ∀ area, ¬ (content.Accepts ⟨2, 3, 4, 1⟩ area ∧ heading.Accepts ⟨1, 0, 8, 1⟩ area) := by
  have itself : ∀ c ∈ boardArea.components, c.PlacesItself := by
    simp only [Component.PlacesItself]
    decide
  have listed : ∀ e ∈ [(heading, lineMatch ⟨1, 0, 8, 1⟩)], e.1 ∈ boardArea.components :=
    List.forall_mem_singleton.2 List.mem_cons_self
  have accepts : heading.Accepts ⟨1, 0, 8, 1⟩ ⟨1, 1, 8, 8⟩ := by
    refine ⟨Assignment.ofBoxes fun name => if name = Name.own then some ⟨1, 0, 8, 1⟩
      else some ⟨1, 1, 8, 8⟩, fun _ => rfl, fun _ => rfl, ?_⟩
    exact List.forall_mem_singleton.2 (by decide)
  obtain ⟨kept, refused⟩ :=
    (narrowing_lossless boardArea itself).1 [(heading, lineMatch ⟨1, 0, 8, 1⟩)] listed
  refine ⟨itself, accepts, kept _ (List.forall_mem_singleton.2 accepts) _ (.refl _),
    fun area ⟨own, other⟩ => ?_⟩
  exact refused _ rfl content (List.mem_cons_of_mem _ List.mem_cons_self) (lineMatch ⟨2, 3, 4, 1⟩)
    (.inr ⟨_, rfl, rfl⟩) area ⟨own, List.forall_mem_singleton.2 other⟩

end witness

end Recognition

end SpatialGrammar
