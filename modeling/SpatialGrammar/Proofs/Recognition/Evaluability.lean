import SpatialGrammar.Proofs.Constraint.Namespace
import SpatialGrammar.Proofs.Overflow
import SpatialGrammar.Proofs.Recognition.Areas
import SpatialGrammar.Proofs.Recognition.Structures
import SpatialGrammar.Recognition.Run

/-!
# Searches that evaluate all their constraints

A finished match is checked strictly, so that the recognition of a pattern fails if a constraint has
no value there. `Constraint.IsEvaluable` names the constraints for which this cannot happen: they
mention nothing but the own box, the box around it and declared components. Main statements:
`finish?_onlyOverflows`, a sound assembly is checked without such a failure, and
`structureCandidates_onlyOverflows` and `areaCandidates_onlyOverflows` for the two searches.
-/

namespace SpatialGrammar

namespace Constraint

/-- A constraint mentions nothing but the own box, the box around it and some components. -/
def MentionsOnly (c : Constraint) (names : List Name) : Prop :=
  ∀ v ∈ c.mentions, v.component = Name.own ∨ v.component = Name.parent ∨ v.component ∈ names

/-- A constraint has a value as soon as the boxes that it mentions are known, and these are the own
box, the box around it and the boxes of some components. -/
structure IsEvaluable (c : Constraint) (names : List Name) : Prop where
  lawful : c.IsLawful
  mentions : c.MentionsOnly names

end Constraint

namespace Recognition

open Outcome (OnlyOverflows)

section checks

variable {c : Constraint} {constraints : List Constraint} {table : BoxTable}
variable {boxes : Name → Option Box} {absent : List Name}

/-- A constraint all of whose components have boxes can be checked. -/
lemma checkAt_onlyOverflows (lawful : c.IsLawful)
    (known : ∀ v ∈ c.mentions, ∃ b, boxes v.component = some b) :
    OnlyOverflows (c.checkAt boxes) := by
  have knows : (Assignment.ofBoxes boxes).Knows c.variableList := by
    refine Assignment.Knows.sorted_iff.2 fun v hv => ?_
    obtain ⟨b, hb⟩ := known v hv
    exact ⟨v.attr.of b, Option.map_eq_some_iff.2 ⟨b, hb, rfl⟩⟩
  obtain ⟨verdict, checked⟩ := Constraint.exists_check lawful knows
  refine (OnlyOverflows.guardWords _).bind fun _ _ => ?_
  unfold Constraint.boundedCheck
  rw [checked]
  split
  · exact (OnlyOverflows.guardWords _).bind fun _ _ => .ok
  · exact .ok

/-- A constraint can be checked if there are boxes for all components that it mentions. -/
lemma holdsOne_onlyOverflows (lawful : c.IsLawful)
    (bound : ∀ v ∈ c.mentions, ∃ bs, table.get? v.component = some bs ∧ bs ≠ []) :
    OnlyOverflows (holdsOne table c) := by
  refine .allM fun choice mem => checkAt_onlyOverflows lawful fun v hv => ?_
  obtain ⟨bs, eq, some_box⟩ := bound v hv
  exact (drawn_of_mem_choicesFor mem).total v.component (mem_componentNames hv) bs eq some_box

/-- Constraints can be checked if there are boxes for all components that those of them that apply
mention. -/
lemma holds_onlyOverflows
    (each : ∀ c ∈ constraints, isVacuous absent c = false →
      c.IsLawful ∧ ∀ v ∈ c.mentions, ∃ bs, table.get? v.component = some bs ∧ bs ≠ []) :
    OnlyOverflows (holds constraints table absent) := by
  refine .allM fun c mem => ?_
  split
  next => exact .ok
  next applies =>
    obtain ⟨lawful, bound⟩ := each c mem (Bool.eq_false_iff.2 applies)
    exact holdsOne_onlyOverflows lawful bound

lemma isVacuous_eq_false_iff : isVacuous absent c = false ↔
    ∀ v ∈ c.mentions, v.component ∉ absent ∧ v.component ≠ Name.parent := by
  simp [isVacuous]

/-- The own constraints of a match by itself can be checked. -/
lemma holds_ownBoxes_onlyOverflows (each : ∀ c ∈ constraints, c.IsEvaluable []) (b : Box) :
    OnlyOverflows (holds constraints (ownBoxes b) []) := by
  refine holds_onlyOverflows fun c mem applies => ⟨(each c mem).lawful, fun v hv => ?_⟩
  obtain own | parent | out := (each c mem).mentions v hv
  · exact ⟨[b], own ▸ NameMap.get?_insert_self _ _ _, List.cons_ne_nil b []⟩
  · exact absurd parent (isVacuous_eq_false_iff.1 applies v hv).2
  · cases out

/-- What is tried on the way is never checked strictly. -/
lemma mayHold_onlyOverflows (constraints : List Constraint) (table : BoxTable) :
    OnlyOverflows (mayHold constraints table) :=
  .allM fun _ _ => .allM fun _ _ =>
    .bind ((OnlyOverflows.guardWords _).bind fun _ _ => .within _ _) fun _ _ => .ok

end checks

variable {α : Type} {s : Scene α} {p : Pattern α} {constraints : List Constraint}
variable {region : Option Region}

section assemblies

variable {a : Assembly α} {accepts : Box → Bool} {k : Candidate α} {name : Name}

lemma allows_onlyOverflows : OnlyOverflows (a.allows constraints name k) := by
  unfold Assembly.allows
  split
  · exact mayHold_onlyOverflows _ _
  · exact .ok

/-- A component of a sound assembly has boxes unless it is absent. -/
lemma exists_boxes_of_sound {done : List (Component α)} (sound : a.Sound done)
    (mem : name ∈ p.components.map (·.name)) (present : name ∉ absentNames p.components a.bound) :
    ∃ bs, a.boxes.get? name = some bs ∧ bs ≠ [] := by
  obtain ⟨c, hc, rfl⟩ := List.mem_map.1 mem
  cases found : a.bound.get? c.name with
  | none =>
    refine absurd (List.mem_map_of_mem (List.mem_filter.2 ⟨hc, ?_⟩)) present
    simpa using NameMap.contains_eq_false_iff.2 found
  | some ms =>
    refine ⟨ms.map Match.box, by rw [sound.boxes, found, Option.map_some], fun empty => ?_⟩
    rw [List.map_eq_nil_iff.1 empty] at found
    exact sound.nonempty c.name found

/-- The attempt to finish a sound assembly can check all constraints. -/
theorem finish?_onlyOverflows {done : List (Component α)} (sound : a.Sound done)
    (each : ∀ c ∈ constraints, c.IsEvaluable (p.components.map (·.name))) :
    OnlyOverflows (a.finish? p constraints accepts) := by
  refine (OnlyOverflows.guardWords _).bind fun _ _ => ?_
  split
  next => exact .ok
  next b _ =>
    refine .bind (holds_onlyOverflows fun c mem applies => ⟨(each c mem).lawful, fun v hv => ?_⟩)
      fun satisfied _ => ?_
    · obtain ⟨present, not_parent⟩ := isVacuous_eq_false_iff.1 applies v hv
      rw [NameMap.get?_insert]
      split
      next => exact ⟨[b], rfl, List.cons_ne_nil b []⟩
      next not_own =>
        obtain own | parent | declared := (each c mem).mentions v hv
        · exact absurd own not_own
        · exact absurd parent not_parent
        · exact exists_boxes_of_sound sound declared present
    · cases satisfied with
      | true => exact .ok
      | false => exact .ok

end assemblies

variable [Score α]

section structures

variable {c : Component α} {components : List (Component α)} {drafts : List (Draft α)}

lemma continueDraft_onlyOverflows (ks : List (Candidate α)) (d : Draft α) :
    OnlyOverflows (continueDraft constraints c ks d) :=
  (OnlyOverflows.filterM fun _ _ => allows_onlyOverflows).bind fun _ _ => .ok

lemma bindAll_onlyOverflows : OnlyOverflows (bindAll s constraints region components drafts) := by
  induction components generalizing drafts with
  | nil => exact .ok
  | cons c rest ih =>
    refine (OnlyOverflows.mapM fun d _ => continueDraft_onlyOverflows _ d).bind fun next _ => ?_
    split
    · exact .ok
    · exact ih

/-- The search for a structure can check all constraints. -/
theorem structureCandidates_onlyOverflows (names : (p.components.map (·.name)).Nodup)
    (roomy : ∀ c ∈ p.components, c.HasRoom)
    (each : ∀ c ∈ compositeConstraints s.grammar p,
      c.IsEvaluable (p.components.map (·.name))) :
    OnlyOverflows (structureCandidates s p region) := by
  refine bindAll_onlyOverflows.bind fun drafts searched => ?_
  refine .bind (.mapM fun d mem => ?_) fun _ _ => .ok
  have made := drafts_assembled searched roomy d mem
  exact finish?_onlyOverflows (made.sound_of_perm (List.reverse_perm _) names) each

end structures

section arrays

lemma arrayMatches_onlyOverflows (each : ∀ c ∈ p.ownConstraints, c.IsEvaluable [])
    {shape : ArrayShape} {inContext : Bool} :
    OnlyOverflows (arrayMatches s p shape inContext region) := by
  refine .bind ?_ fun _ _ => .ok
  refine (OnlyOverflows.require _).bind fun _ _ => (OnlyOverflows.require _).bind fun _ _ => ?_
  refine .bind (.mapM fun items _ => ?_) fun _ _ => .ok
  refine (holds_ownBoxes_onlyOverflows each _).bind fun satisfied _ => ?_
  cases satisfied with
  | true => exact .ok
  | false => exact .ok

lemma cellMatches_onlyOverflows (each : ∀ c ∈ p.ownConstraints, c.IsEvaluable [])
    {contentType : Name} : OnlyOverflows (cellMatches s p contentType region) := by
  refine .bind (.mapM fun c _ => ?_) fun _ _ => .ok
  unfold cellMatch?
  split
  · exact .ok
  split
  · exact .ok
  refine (holds_ownBoxes_onlyOverflows each _).bind fun satisfied _ => ?_
  cases satisfied with
  | true => exact .ok
  | false => exact .ok

end arrays

section areas

variable {slot : Slot α} {slots : List (Slot α)} {d : AreaDraft α} {budget : Nat}

/-- The arrays in context that the patterns of a grammar bind can be recognised again. -/
def ArraysEvaluable (s : Scene α) : Prop :=
  ∀ name q shape region, s.grammar.pattern? name = some q → q.kind = .arrayInContext shape →
    OnlyOverflows (arrayMatches s q shape true region)

omit [Score α] in
lemma areaSlots_onlyOverflows : OnlyOverflows (areaSlots s p region) :=
  .bind (.mapM fun _ _ => (OnlyOverflows.within _ _).bind fun _ _ => .ok) fun _ _ => .ok

lemma candidatesFor_onlyOverflows (arrays : ArraysEvaluable s) (proper : slot.Proper s) :
    OnlyOverflows (candidatesFor s slot d) := by
  unfold candidatesFor
  split
  next => exact .ok
  next q shape eq =>
    have inContext := (Option.filter_eq_some_iff.1 eq).1
    rw [proper.inContext] at inContext
    obtain ⟨found, kind⟩ := arrayInContext?_eq_some inContext
    exact (OnlyOverflows.guardWords _).bind fun _ _ =>
      (arrays _ q shape _ found kind).bind fun _ _ => .within _ _

lemma offer_onlyOverflows {k : FloatingCandidate α} {name : Name} :
    OnlyOverflows (Offer.of? constraints name d k) := by
  unfold Offer.of?
  split
  · exact .ok
  · refine allows_onlyOverflows.bind fun allowed _ => ?_
    cases allowed with
    | true => exact (OnlyOverflows.guardWords _).bind fun _ _ => .ok
    | false => exact .ok

lemma bindNearest_onlyOverflows (arrays : ArraysEvaluable s) (proper : slot.Proper s) :
    OnlyOverflows (bindNearest s constraints slot d) := by
  refine (candidatesFor_onlyOverflows arrays proper).bind fun ks _ => ?_
  refine .bind ?_ fun _ _ => .within _ _
  exact (OnlyOverflows.mapM fun _ _ => offer_onlyOverflows).bind fun _ _ => .within _ _

lemma collect_onlyOverflows {β γ : Type} {f : Nat → β → Except Fault (List γ)} {xs : List β}
    (each : ∀ left, ∀ x ∈ xs, OnlyOverflows (f left x)) : OnlyOverflows (collect f budget xs) := by
  induction xs generalizing budget with
  | nil => exact .ok
  | cons x xs ih =>
    rw [collect]
    split
    · exact .ok
    · refine (each budget x List.mem_cons_self).bind fun found _ => ?_
      exact (ih fun left y hy => each left y (List.mem_cons_of_mem x hy)).bind fun _ _ => .ok

lemma complete_onlyOverflows (arrays : ArraysEvaluable s) (proper : ∀ slot ∈ slots, slot.Proper s) :
    OnlyOverflows (complete s constraints slots budget d) := by
  induction slots generalizing budget d with
  | nil => exact .ok
  | cons slot slots ih =>
    obtain ⟨here, proper⟩ := List.forall_mem_cons.1 proper
    rw [complete]
    split
    · exact .ok
    refine (bindNearest_onlyOverflows arrays here).bind fun next _ => ?_
    split
    · split
      · exact ih proper
      · exact .ok
    · exact collect_onlyOverflows fun left e _ => ih proper

lemma completeDrafts_onlyOverflows (arrays : ArraysEvaluable s)
    (proper : ∀ slot ∈ slots, slot.Proper s) :
    OnlyOverflows (completeDrafts s constraints slots) := by
  cases slots with
  | nil => exact .ok
  | cons first rest =>
    obtain ⟨here, proper⟩ := List.forall_mem_cons.1 proper
    refine (bindNearest_onlyOverflows arrays here).bind fun entries _ => ?_
    split
    · split
      · exact complete_onlyOverflows arrays proper
      · exact .ok
    · exact .bind (.mapM fun d _ => complete_onlyOverflows arrays proper) fun _ _ => .ok

/-- The search for an area can check all constraints. -/
theorem areaCandidates_onlyOverflows (arrays : ArraysEvaluable s)
    (names : (p.components.map (·.name)).Nodup) (roomy : ∀ c ∈ p.components, c.HasRoom)
    (each : ∀ c ∈ compositeConstraints s.grammar p,
      c.IsEvaluable (p.components.map (·.name))) :
    OnlyOverflows (areaCandidates s p region) := by
  refine areaSlots_onlyOverflows.bind fun slots made => ?_
  obtain ⟨perm, proper⟩ := areaSlots_spec made
  split
  · exact .ok
  refine (completeDrafts_onlyOverflows arrays proper).bind fun drafts searched => ?_
  refine .bind (.mapM fun d mem => ?_) fun _ _ => .ok
  have assembled := completeDrafts_assembled searched (fun c hc => roomy c (perm.mem_iff.1 hc))
    proper d (eraseDupsBy_subset drafts mem)
  exact finish?_onlyOverflows
    (assembled.sound_of_perm ((List.reverse_perm _).trans perm) names) each

end areas

end Recognition

end SpatialGrammar
