import SpatialGrammar.Proofs.Match
import SpatialGrammar.Proofs.Order.NameMap
import SpatialGrammar.Proofs.Pattern
import SpatialGrammar.Proofs.Plane.Box
import SpatialGrammar.Proofs.Recognition.Binding
import SpatialGrammar.Recognition.Arrays
import SpatialGrammar.Recognition.Assembly

/-!
# Sound assemblies

What holds of everything that is assembled on the way to a composite match. `Assembled` says how
both searches deal with components. The invariant that it keeps is `Assembly.Sound`: the components
that have been dealt with have as many members as they should, no two members occupy the same grid
point, and the tables of boxes and points tell what is bound. Main statements: `Taken.clear` and
`Taken.count`, what both searches gather for a repeated component, `Assembled.sound`, whatever is
assembled is sound, and `Composed.fulfils` and `Composed.pairwise_children`, what this means for the
match that comes out of it.
-/

namespace SpatialGrammar.Recognition

variable {α : Type}

section clear

variable {k : Candidate α} {ks : List (Candidate α)} {occupied more : List Point}

/-- A candidate occupies the points of the match that it stands for. -/
def Candidate.IsGenuine (k : Candidate α) : Prop := k.points = k.found.points

lemma Candidate.isGenuine_of (m : Match α) : (Candidate.of m).IsGenuine := rfl

lemma Candidate.isClearOf_iff : k.isClearOf occupied = true ↔ ∀ p ∈ k.points, p ∉ occupied := by
  simp [Candidate.isClearOf]

lemma Candidate.isClearOf_append : k.isClearOf (occupied ++ more) = true ↔
    k.isClearOf occupied = true ∧ k.isClearOf more = true := by
  simp only [isClearOf_iff, List.mem_append, not_or, forall₂_and]

/-- Candidates are clear of each other, and of some points. -/
structure Clear (occupied : List Point) (ks : List (Candidate α)) : Prop where
  outside : ∀ k ∈ ks, k.isClearOf occupied = true
  between : ks.Pairwise fun j k => k.isClearOf j.points = true

lemma Clear.nil (occupied : List Point) : Clear occupied ([] : List (Candidate α)) :=
  ⟨nofun, .nil⟩

lemma Clear.cons (hk : k.isClearOf occupied = true) (h : Clear (occupied ++ k.points) ks) :
    Clear occupied (k :: ks) := by
  have both := fun j hj => Candidate.isClearOf_append.1 (h.outside j hj)
  refine ⟨List.forall_mem_cons.2 ⟨hk, fun j hj => (both j hj).1⟩, ?_⟩
  exact .cons (fun j hj => (both j hj).2) h.between

lemma Clear.singleton (hk : k.isClearOf occupied = true) : Clear occupied [k] :=
  .cons hk (.nil _)

/-- Some candidates are taken, in order, that are clear of each other and of some points, as long as
there is room for more. -/
inductive Taken : Option Nat → List Point → List (Candidate α) → List (Candidate α) → Prop where
  | stop (room occupied ks) : Taken room occupied ks []
  | skip {room occupied ks js} (k : Candidate α) :
    Taken room occupied ks js →
    Taken room occupied (k :: ks) js
  | take {room occupied ks js} {k : Candidate α} :
    k.isClearOf occupied = true →
    room ≠ some 0 →
    Taken (room.map (· - 1)) (occupied ++ k.points) ks js →
    Taken room occupied (k :: ks) (k :: js)

namespace Taken

variable {room : Option Nat} {js : List (Candidate α)} {c : Component α}

lemma sublist (h : Taken room occupied ks js) : js.Sublist ks := by
  induction h with
  | stop room occupied ks => exact List.nil_sublist ks
  | skip k _ ih => exact ih.cons k
  | take _ _ _ ih => exact ih.cons_cons _

lemma subset (h : Taken room occupied ks js) : js ⊆ ks := h.sublist.subset

lemma clear (h : Taken room occupied ks js) : Clear occupied js := by
  induction h with
  | stop room occupied ks => exact .nil occupied
  | skip k _ ih => exact ih
  | take free _ _ ih => exact .cons free ih

lemma length_le (h : Taken room occupied ks js) {most : Nat} (bound : most ∈ room) :
    js.length ≤ most := by
  induction h generalizing most with
  | stop room occupied ks => exact Nat.zero_le most
  | skip k _ ih => exact ih bound
  | take _ more _ ih =>
    have le := ih (Option.mem_map_of_mem (· - 1) bound)
    have pos : most ≠ 0 := fun e => more (e ▸ bound)
    rw [List.length_cons]
    omega

/-- Enough candidates that are taken for a component are as many as there should be. -/
lemma count (h : Taken c.maxCount occupied ks js) (roomy : c.HasRoom)
    (enough : c.admitsCount js.length = true) : c.count.contains js.length = true :=
  roomy.contains_of_admits enough fun _ bound => h.length_le bound

end Taken

end clear

namespace Assembly

variable {a : Assembly α} {done rest : List (Component α)} {c : Component α} {name : Name}
variable {members : List (Candidate α)}

/-- What is bound to a component. -/
def membersOf (a : Assembly α) (name : Name) : List (Match α) := (a.bound.get? name).getD []

/-- What holds of an assembly when some components have been dealt with. -/
structure Sound (done : List (Component α)) (a : Assembly α) : Prop where
  boxes : ∀ name, a.boxes.get? name = (a.bound.get? name).map (List.map Match.box)
  occupied : ∀ name, ∀ m ∈ a.membersOf name, ∀ p ∈ m.points, p ∈ a.occupied
  apart : ∀ name, (a.membersOf name).Pairwise Match.Apart
  separate : ∀ name other, name ≠ other →
    ∀ m ∈ a.membersOf name, ∀ n ∈ a.membersOf other, m.Apart n
  nonempty : ∀ name, a.bound.get? name ≠ some []
  counted : ∀ c ∈ done, c.count.contains (a.membersOf c.name).length = true
  fresh : ∀ name, name ∉ done.map (·.name) → a.bound.get? name = none

lemma membersOf_eq_nil (h : a.bound.get? name = none) : a.membersOf name = [] := by
  rw [membersOf, h, Option.getD_none]

lemma membersOf_bind (a : Assembly α) (component other : Name) (members : List (Candidate α)) :
    (a.bind component members).membersOf other =
      if other = component then members.map (·.found) else a.membersOf other := by
  simp only [membersOf, bind, NameMap.get?_insert]
  split <;> rfl

lemma sound_empty : (empty : Assembly α).Sound [] where
  boxes _ := rfl
  occupied _ := nofun
  apart _ := .nil
  separate _ _ _ := nofun
  nonempty _ := nofun
  counted := nofun
  fresh _ _ := rfl

/-- The order in which components have been dealt with does not matter. -/
lemma Sound.of_mem_iff (h : a.Sound done) (same : ∀ c, c ∈ rest ↔ c ∈ done) : a.Sound rest := by
  refine { h with counted := fun c hc => h.counted c ((same c).1 hc), fresh := ?_ }
  intro name out
  refine h.fresh name fun mem => out ?_
  obtain ⟨c, hc, rfl⟩ := List.mem_map.1 mem
  exact List.mem_map_of_mem ((same c).2 hc)

/-- A component that may have no members may stay unbound. -/
lemma Sound.skip (h : a.Sound done) (unbound : c.count.contains 0 = true)
    (new : c.name ∉ done.map (·.name)) : a.Sound (c :: done) := by
  refine { h with counted := List.forall_mem_cons.2 ⟨?_, h.counted⟩, fresh := ?_ }
  · rw [membersOf_eq_nil (h.fresh c.name new)]
    exact unbound
  · exact fun name out => h.fresh name fun mem => out (List.mem_cons_of_mem c.name mem)

/-- Members that are clear of everything can be bound to a component. -/
theorem Sound.bind (h : a.Sound done) (new : c.name ∉ done.map (·.name))
    (genuine : ∀ k ∈ members, k.IsGenuine) (clear : Clear a.occupied members)
    (some_member : members ≠ []) (count : c.count.contains members.length = true) :
    (a.bind c.name members).Sound (c :: done) := by
  -- whatever is bound elsewhere has its points among the occupied ones
  have away : ∀ name, name ≠ c.name → ∀ m ∈ members.map (·.found), ∀ n ∈ a.membersOf name,
      m.Apart n := by
    intro name _ m hm n hn p hp hq
    obtain ⟨k, hk, rfl⟩ := List.mem_map.1 hm
    rw [← genuine k hk] at hp
    exact Candidate.isClearOf_iff.1 (clear.outside k hk) p hp (h.occupied name n hn p hq)
  refine ⟨fun name => ?_, fun name m hm p hp => ?_, fun name => ?_, fun name other ne => ?_,
    fun name => ?_, ?_, fun name out => ?_⟩
  · simp only [Assembly.bind, NameMap.get?_insert]
    split
    · simp
    · exact h.boxes name
  · rw [membersOf_bind] at hm
    refine List.mem_append.2 ?_
    split at hm
    · obtain ⟨k, hk, rfl⟩ := List.mem_map.1 hm
      rw [← genuine k hk] at hp
      exact .inr (List.mem_flatMap.2 ⟨k, hk, hp⟩)
    · exact .inl (h.occupied name m hm p hp)
  · rw [membersOf_bind]
    split
    · refine List.pairwise_map.2 (clear.between.imp_of_mem fun {j k} hj hk away p hp hq => ?_)
      rw [← genuine j hj] at hp
      rw [← genuine k hk] at hq
      exact Candidate.isClearOf_iff.1 away p hq hp
    · exact h.apart name
  · rw [membersOf_bind, membersOf_bind]
    split
    next same =>
      rw [if_neg fun e => ne (same.trans e.symm)]
      exact away other fun e => ne (same.trans e.symm)
    next other_name =>
      split
      · exact fun m hm n hn => (away name other_name n hn m hm).symm
      · exact h.separate name other ne
  · simp only [Assembly.bind, NameMap.get?_insert]
    split
    · simpa using some_member
    · exact h.nonempty name
  · refine List.forall_mem_cons.2 ⟨?_, fun d hd => ?_⟩
    · rw [membersOf_bind, if_pos rfl, List.length_map]
      exact count
    · have ne : d.name ≠ c.name := fun e => new (e ▸ List.mem_map_of_mem hd)
      rw [membersOf_bind, if_neg ne]
      exact h.counted d hd
  · simp only [List.map_cons, List.mem_cons, not_or] at out
    simp only [Assembly.bind, NameMap.get?_insert, if_neg out.1]
    exact h.fresh name out.2

/-- A candidate that is allowed is clear of what is bound. -/
lemma isClearOf_of_allows {constraints : List Constraint} {k : Candidate α}
    (h : a.allows constraints name k = .ok true) : k.isClearOf a.occupied = true := by
  unfold allows at h
  split at h
  · assumption
  · cases h

end Assembly

section assembled

variable [Score α] {s : Scene α} {m : Match α} {a : Assembly α} {done : List (Component α)}
variable {name : Name}

/-- What there is for a component that binds a pattern: the matches that are registered under it
and, if it is an array in context, those that it has in any region. -/
def Supplies (s : Scene α) (name : Name) (m : Match α) : Prop :=
  m ∈ s.registry.named name ∨
    ∃ q shape region ms, s.grammar.pattern? name = some q ∧ q.kind = .arrayInContext shape ∧
      arrayMatches s q shape true region = .ok ms ∧ m ∈ ms

/-- A candidate stands for one of the matches that there are for a component. -/
def Candidate.Serves (k : Candidate α) (s : Scene α) (c : Component α) : Prop :=
  ∃ m, Supplies s c.pattern m ∧ k = Candidate.of m

/-- Components are dealt with one after the other, the last one first in the list. Each of them is
bound to candidates that serve it and that are clear of everything, or stays unbound. -/
inductive Assembled (s : Scene α) : List (Component α) → Assembly α → Prop where
  | empty : Assembled s [] Assembly.empty
  | skip {done : List (Component α)} {a : Assembly α} {c : Component α} :
    Assembled s done a →
    c.count.contains 0 = true →
    Assembled s (c :: done) a
  | bind {done : List (Component α)} {a : Assembly α} {c : Component α}
      {members : List (Candidate α)} :
    Assembled s done a →
    (∀ k ∈ members, k.Serves s c) →
    Clear a.occupied members →
    members ≠ [] →
    c.count.contains members.length = true →
    Assembled s (c :: done) (a.bind c.name members)

/-- Whatever is assembled from components with different names is sound. -/
theorem Assembled.sound (h : Assembled s done a) (names : (done.map (·.name)).Nodup) :
    a.Sound done := by
  induction h with
  | empty => exact Assembly.sound_empty
  | skip _ unbound ih =>
    obtain ⟨new, names⟩ := List.nodup_cons.1 names
    exact (ih names).skip unbound new
  | bind _ serving clear some_member count ih =>
    obtain ⟨new, names⟩ := List.nodup_cons.1 names
    refine (ih names).bind new (fun k hk => ?_) clear some_member count
    obtain ⟨m, -, rfl⟩ := serving k hk
    exact Candidate.isGenuine_of m

/-- Whatever is assembled from all of some components is sound, whatever their order. -/
lemma Assembled.sound_of_perm {components : List (Component α)} (h : Assembled s done a)
    (perm : done.Perm components) (names : (components.map (·.name)).Nodup) : a.Sound components :=
  (h.sound ((perm.map (·.name)).nodup_iff.2 names)).of_mem_iff fun _ => perm.symm.mem_iff

lemma Assembled.ascending (h : Assembled s done a) : a.bound.Ascending := by
  induction h with
  | empty => exact NameMap.ascending_empty
  | skip _ _ ih => exact ih
  | bind _ _ _ _ _ ih => exact NameMap.ascending_insert ih _ _

/-- Whatever is bound is among what there is for a component. -/
lemma Assembled.supplies (h : Assembled s done a) (hm : m ∈ a.membersOf name) :
    ∃ c ∈ done, Supplies s c.pattern m := by
  induction h with
  | empty => cases hm
  | skip _ _ ih =>
    obtain ⟨c, hc, supplied⟩ := ih hm
    exact ⟨c, List.mem_cons_of_mem _ hc, supplied⟩
  | @bind done a c members _ serving _ _ _ ih =>
    rw [Assembly.membersOf_bind] at hm
    split at hm
    · obtain ⟨k, hk, rfl⟩ := List.mem_map.1 hm
      obtain ⟨m, supplied, rfl⟩ := serving k hk
      exact ⟨c, List.mem_cons_self, supplied⟩
    · obtain ⟨d, hd, supplied⟩ := ih hm
      exact ⟨d, List.mem_cons_of_mem c hd, supplied⟩

end assembled

section fulfils

variable {g : Grammar α} {p : Pattern α} {m : Match α} {a : Assembly α} {b : Box} {c : Constraint}
variable {boxes : Name → Option Box} {weights : NameMap α}

/-- A constraint is to be checked on a match: it mentions neither the parent nor a component to
which nothing is bound. -/
def Applies (p : Pattern α) (m : Match α) (c : Constraint) : Prop :=
  ∀ v ∈ c.mentions, v.component ≠ Name.parent ∧
    ∀ k ∈ p.components, k.name = v.component → m.boundTo k.name ≠ []

/-- Boxes are those of a match and of one member of each component that a constraint mentions. -/
def Chooses (m : Match α) (c : Constraint) (boxes : Name → Option Box) : Prop :=
  boxes Name.own = some m.box ∧ ∀ v ∈ c.mentions, v.component ≠ Name.own →
    ∃ n ∈ m.boundTo v.component, boxes v.component = some n.box

/-- What a match of a composite pattern has to be: every component has as many members as it should,
no two members occupy the same grid point, the box is the least one around what is bound to inner
components, and the constraints are satisfied by every choice of members. -/
structure Fulfils (g : Grammar α) (p : Pattern α) (m : Match α) : Prop where
  counted : ∀ c ∈ p.components, c.count.contains (m.boundTo c.name).length = true
  apart : (p.components.flatMap fun c => m.boundTo c.name).Pairwise Match.Apart
  least : m.box.IsLeastAround <|
    (p.components.filter fun c => !c.isOuter).flatMap fun c => (m.boundTo c.name).map Match.box
  satisfied : ∀ c ∈ compositeConstraints g p, Applies p m c →
    ∀ boxes, Chooses m c boxes → c.checkAt boxes = .ok true

lemma boundTo_ofComponents {pattern component : Name} :
    (Match.ofComponents pattern b a.bound weights).boundTo component = a.membersOf component := rfl

/-- What a successful attempt to finish an assembly has checked. -/
lemma finish?_eq_some {constraints : List Constraint} {accepts : Box → Bool}
    (h : a.finish? p constraints accepts = .ok (some m)) :
    ∃ b, innerBox? p.components a.boxes = some b ∧
      holds constraints (a.boxes.insert Name.own [b]) (absentNames p.components a.bound) =
        .ok true ∧
      m = Match.ofComponents p.name b a.bound (componentWeights p.components) := by
  obtain ⟨-, -, h⟩ := Outcome.bind_eq_ok.1 h
  split at h
  next none => simp [Outcome.pure_eq_ok] at h
  next b found =>
    obtain ⟨checked, h⟩ := Outcome.ite_eq_ok_some.1 h
    have eq := Option.some.inj (Outcome.pure_eq_ok.1 h)
    exact ⟨b, (Option.filter_eq_some_iff.1 found).1, checked, eq.symm⟩

lemma pattern_of_finish? {constraints : List Constraint} {accepts : Box → Bool}
    (h : a.finish? p constraints accepts = .ok (some m)) : m.pattern = p.name := by
  obtain ⟨b, -, -, rfl⟩ := finish?_eq_some h
  rfl

lemma innerBoxes_eq (h : a.Sound p.components) :
    innerBoxes p.components a.boxes =
      (p.components.filter fun c => !c.isOuter).flatMap fun c =>
        (a.membersOf c.name).map Match.box := by
  simp only [innerBoxes, h.boxes, Assembly.membersOf]
  congr 1
  funext c
  cases a.bound.get? c.name <;> rfl

lemma pairwise_members (h : a.Sound p.components) (names : (p.components.map (·.name)).Nodup) :
    (p.components.flatMap fun c => a.membersOf c.name).Pairwise Match.Apart := by
  rw [List.pairwise_flatMap]
  refine ⟨fun c _ => h.apart c.name, ?_⟩
  exact (List.pairwise_map.1 names).imp fun ne => h.separate _ _ ne

lemma isVacuous_eq_false
    (applies : Applies p (Match.ofComponents p.name b a.bound weights) c) :
    isVacuous (absentNames p.components a.bound) c = false := by
  rw [isVacuous, List.any_eq_false]
  intro v hv out
  obtain ⟨parent, bound⟩ := applies v hv
  cases Bool.or_eq_true_iff.1 out with
  | inl absent =>
    obtain ⟨k, hk, eq⟩ := List.mem_map.1 (List.contains_iff_mem.1 absent)
    obtain ⟨mem, unbound⟩ := List.mem_filter.1 hk
    refine bound k mem eq (Assembly.membersOf_eq_nil ?_)
    exact NameMap.contains_eq_false_iff.1 (by simpa using unbound)
  | inr is_parent => exact parent (eq_of_beq is_parent)

lemma picks_of_chooses (h : a.Sound p.components)
    (chooses : Chooses (Match.ofComponents p.name b a.bound weights) c boxes) :
    Picks (a.boxes.insert Name.own [b]) boxes c.componentNames := by
  intro name hn
  obtain ⟨v, hv, rfl⟩ := exists_of_mem_componentNames hn
  rw [NameMap.get?_insert]
  split
  next own => exact ⟨[b], rfl, b, List.mem_singleton_self b, own ▸ chooses.1⟩
  next other =>
    obtain ⟨n, hn, eq⟩ := chooses.2 v hv other
    rw [boundTo_ofComponents] at hn
    rw [h.boxes]
    cases found : a.bound.get? v.component with
    | none =>
      rw [Assembly.membersOf_eq_nil found] at hn
      cases hn
    | some ms =>
      rw [Assembly.membersOf, found, Option.getD_some] at hn
      exact ⟨ms.map Match.box, rfl, n.box, List.mem_map_of_mem hn, eq⟩

/-- A sound assembly of all components only becomes a match that fulfils its pattern. -/
theorem fulfils_of_finish? {accepts : Box → Bool} (h : a.Sound p.components)
    (names : (p.components.map (·.name)).Nodup)
    (done : a.finish? p (compositeConstraints g p) accepts = .ok (some m)) : Fulfils g p m := by
  obtain ⟨b, box, checked, rfl⟩ := finish?_eq_some done
  refine ⟨h.counted, pairwise_members h names, ?_, fun c hc applies boxes chooses => ?_⟩
  · rw [innerBox?, innerBoxes_eq h] at box
    exact Box.isLeastAround_hull box
  · exact checkAt_of_holds checked hc (isVacuous_eq_false applies) (picks_of_chooses h chooses)

end fulfils

section composed

variable [Score α] {s : Scene α} {p : Pattern α} {m child : Match α} {a : Assembly α}
variable {constraints : List Constraint} {accepts : Box → Bool} {done : List (Component α)}

/-- The children of the match that an assembly becomes are what is bound. -/
lemma mem_children_of_finish? (h : Assembled s done a)
    (finished : a.finish? p constraints accepts = .ok (some m)) (hc : child ∈ m.children) :
    ∃ name, child ∈ a.membersOf name := by
  obtain ⟨b, -, -, rfl⟩ := finish?_eq_some finished
  obtain ⟨⟨name, members⟩, entry, mem⟩ := List.mem_flatMap.1 hc
  refine ⟨name, ?_⟩
  rwa [Assembly.membersOf, (NameMap.mem_entries_iff h.ascending).1 entry, Option.getD_some]

/-- The children of the match that an assembly becomes do not overlap. -/
lemma pairwise_children_of_finish? (h : Assembled s done a) (names : (done.map (·.name)).Nodup)
    (finished : a.finish? p constraints accepts = .ok (some m)) :
    m.children.Pairwise Match.Apart := by
  obtain ⟨b, -, -, rfl⟩ := finish?_eq_some finished
  have sound := h.sound names
  have members : ∀ entry ∈ a.bound.entries, entry.2 = a.membersOf entry.1 := by
    intro entry mem
    rw [Assembly.membersOf, (NameMap.mem_entries_iff h.ascending).1 mem, Option.getD_some]
  refine List.pairwise_flatMap.2 ⟨fun entry mem => ?_, ?_⟩
  · rw [members entry mem]
    exact sound.apart entry.1
  · refine (List.pairwise_map.1 h.ascending).imp_of_mem fun {first second} mem mem' lt => ?_
    rw [members first mem, members second mem']
    exact sound.separate first.1 second.1 lt.ne

/-- A match is a finished assembly of all components of a pattern. -/
def Composed (s : Scene α) (p : Pattern α) (m : Match α) : Prop :=
  ∃ done a accepts, done.Perm p.components ∧ Assembled s done a ∧
    a.finish? p (compositeConstraints s.grammar p) accepts = .ok (some m)

namespace Composed

variable (h : Composed s p m)

include h

/-- A composed match fulfils its pattern. -/
theorem fulfils (names : (p.components.map (·.name)).Nodup) : Fulfils s.grammar p m := by
  obtain ⟨done, a, accepts, perm, made, finished⟩ := h
  exact fulfils_of_finish? (made.sound_of_perm perm names) names finished

/-- The children of a composed match do not overlap. -/
theorem pairwise_children (names : (p.components.map (·.name)).Nodup) :
    m.children.Pairwise Match.Apart := by
  obtain ⟨done, a, accepts, perm, made, finished⟩ := h
  exact pairwise_children_of_finish? made ((perm.map (·.name)).nodup_iff.2 names) finished

/-- The children of a composed match are among what there is for its components. -/
lemma supplies (hc : child ∈ m.children) : ∃ c ∈ p.components, Supplies s c.pattern child := by
  obtain ⟨done, a, accepts, perm, made, finished⟩ := h
  obtain ⟨name, mem⟩ := mem_children_of_finish? made finished hc
  obtain ⟨c, hc, supplied⟩ := made.supplies mem
  exact ⟨c, perm.mem_iff.1 hc, supplied⟩

end Composed

end composed

end SpatialGrammar.Recognition
