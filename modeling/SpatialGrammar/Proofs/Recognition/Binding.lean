import SpatialGrammar.Proofs.Constraint.Evaluation
import SpatialGrammar.Proofs.Constraint.Locality
import SpatialGrammar.Recognition.Binding

/-!
# Constraints that hold for bound components

What the checks of bound components guarantee. Main statements: `exists_choice`, every way to take
one box for each of some components is among the choices, `drawn_of_mem_choicesFor`, every choice is
such a way as far as boxes are bound, and `checkAt_of_holds`, a constraint that has passed the
strict check is satisfied by each of them. What is ruled out on the way is certainly violated
(`exists_isViolated`), and nothing else is. Where at most one box is bound to each component, it is
violated in the end (`OneEach.exists_violated`), and the strict check decides whether all constraints
are true (`OneEach.holds_iff`).
-/

namespace SpatialGrammar.Recognition

variable {table : BoxTable} {names done : List Name} {name other : Name} {b : Box} {c : Constraint}
variable {choice : Choice} {found : List Choice} {boxes : Name → Option Box}

lemma box?_cons_self : Choice.box? ((name, b) :: choice) name = some b := by
  simp [Choice.box?]

lemma box?_cons_of_ne (ne : name ≠ other) :
    Choice.box? ((name, b) :: choice) other = choice.box? other := by
  simp [Choice.box?, ne]

/-- Boxes that are bound to components, one for each of some names. -/
def Picks (table : BoxTable) (boxes : Name → Option Box) (names : List Name) : Prop :=
  ∀ name ∈ names, ∃ bs, table.get? name = some bs ∧ ∃ b ∈ bs, boxes name = some b

/-- The choices with one for a further component, if boxes are bound to it. -/
def extendFrom (table : BoxTable) (found : List Choice) (name : Name) : List Choice :=
  match table.get? name with
  | none | some [] => found
  | some bs => extendChoices found name bs

lemma choicesFor_eq_foldl : choicesFor table names = names.foldl (extendFrom table) [[]] := rfl

/-- One more component extends the choice that agrees with some boxes. -/
lemma exists_extension (mem : choice ∈ found) (agree : ∀ k ∈ done, choice.box? k = boxes k)
    (hb : ∃ bs, table.get? name = some bs ∧ ∃ b ∈ bs, boxes name = some b) :
    ∃ more ∈ extendFrom table found name, ∀ k ∈ name :: done, Choice.box? more k = boxes k := by
  obtain ⟨bs, eq, b, hb, at_name⟩ := hb
  refine ⟨(name, b) :: choice, ?_, fun k hk => ?_⟩
  · cases bs with
    | nil => cases hb
    | cons first rest =>
      rw [extendFrom, eq]
      exact List.mem_flatMap.2 ⟨choice, mem, List.mem_map_of_mem hb⟩
  · by_cases same : name = k
    · rw [← same, box?_cons_self, at_name]
    · rw [box?_cons_of_ne same]
      exact agree k (List.mem_of_ne_of_mem (Ne.symm same) hk)

lemma exists_foldl_choices (mem : choice ∈ found) (agree : ∀ k ∈ done, choice.box? k = boxes k)
    (picks : Picks table boxes names) :
    ∃ more ∈ names.foldl (extendFrom table) found,
      ∀ k ∈ done ++ names, Choice.box? more k = boxes k := by
  -- the choice is extended name by name, and agrees with the boxes on the names that are done
  induction names generalizing found choice done with
  | nil => exact ⟨choice, mem, by simpa using agree⟩
  | cons name names ih =>
    obtain ⟨next, hn, agree⟩ := exists_extension mem agree (picks name List.mem_cons_self)
    obtain ⟨more, hm, agree⟩ := ih hn agree fun k hk => picks k (List.mem_cons_of_mem name hk)
    refine ⟨more, hm, fun k hk => agree k ?_⟩
    simp only [List.mem_append, List.mem_cons] at hk ⊢
    tauto

/-- Every way to take one box for each of some components is among the choices. -/
lemma exists_choice (picks : Picks table boxes names) :
    ∃ choice ∈ choicesFor table names, ∀ k ∈ names, Choice.box? choice k = boxes k := by
  have start : ∀ k ∈ ([] : List Name), Choice.box? [] k = boxes k := nofun
  rw [choicesFor_eq_foldl]
  exact exists_foldl_choices (List.mem_singleton_self []) start picks

/-- A choice takes its boxes from those that are bound to some components, and takes one for each of
these that has any. -/
structure Drawn (table : BoxTable) (names : List Name) (choice : Choice) : Prop where
  taken : ∀ name b, choice.box? name = some b →
    name ∈ names ∧ ∃ bs, table.get? name = some bs ∧ b ∈ bs
  total : ∀ name ∈ names, ∀ bs, table.get? name = some bs → bs ≠ [] →
    ∃ b, choice.box? name = some b

lemma drawn_nil : Drawn table [] [] := ⟨nofun, nofun⟩

/-- A component without boxes changes nothing. -/
lemma Drawn.skip (h : Drawn table done choice)
    (empty : ∀ bs, table.get? name = some bs → bs = []) : Drawn table (name :: done) choice where
  taken other b hb := (h.taken other b hb).imp_left (List.mem_cons_of_mem name)
  total other mem bs eq some_box := by
    cases mem with
    | head => exact absurd (empty bs eq) some_box
    | tail _ mem => exact h.total other mem bs eq some_box

lemma Drawn.cons {bs : List Box} (h : Drawn table done choice) (eq : table.get? name = some bs)
    (hb : b ∈ bs) : Drawn table (name :: done) ((name, b) :: choice) where
  taken other b' hb' := by
    by_cases same : name = other
    · rw [← same, box?_cons_self, Option.some.injEq] at hb'
      rw [← same, ← hb']
      exact ⟨List.mem_cons_self, bs, eq, hb⟩
    · rw [box?_cons_of_ne same] at hb'
      exact (h.taken other b' hb').imp_left (List.mem_cons_of_mem name)
  total other mem bs' eq' some_box := by
    by_cases same : name = other
    · exact ⟨b, same ▸ box?_cons_self⟩
    · rw [box?_cons_of_ne same]
      exact h.total other (List.mem_of_ne_of_mem (Ne.symm same) mem) bs' eq' some_box

lemma drawn_of_mem_foldl (start : ∀ choice ∈ found, Drawn table done choice)
    (mem : choice ∈ names.foldl (extendFrom table) found) :
    Drawn table (names.reverse ++ done) choice := by
  induction names generalizing found done with
  | nil => exact start choice mem
  | cons name names ih =>
    rw [List.reverse_cons, List.append_assoc, List.singleton_append]
    refine ih (fun choice mem => ?_) mem
    unfold extendFrom at mem
    split at mem
    next unbound => exact (start choice mem).skip fun bs eq => by simp [unbound] at eq
    next empty => exact (start choice mem).skip fun bs eq => by simpa [empty] using eq.symm
    next bs _ eq =>
      obtain ⟨choice, hc, mem⟩ := List.mem_flatMap.1 mem
      obtain ⟨b, hb, rfl⟩ := List.mem_map.1 mem
      exact (start choice hc).cons eq hb

/-- Every choice takes one box for each of some components, as far as boxes are bound to them. -/
lemma drawn_of_mem_choicesFor (mem : choice ∈ choicesFor table names) :
    Drawn table names choice := by
  have start : ∀ choice ∈ ([[]] : List Choice), Drawn table [] choice := by
    intro choice hc
    rw [List.mem_singleton.1 hc]
    exact drawn_nil
  rw [choicesFor_eq_foldl] at mem
  have drawn := drawn_of_mem_foldl start mem
  rw [List.append_nil] at drawn
  exact ⟨fun name b hb => (drawn.taken name b hb).imp_left List.mem_reverse.1,
    fun name hn => drawn.total name (List.mem_reverse.2 hn)⟩

/-- There always is a choice of boxes, as far as there are any. -/
lemma exists_mem_choicesFor (table : BoxTable) (names : List Name) :
    ∃ choice, choice ∈ choicesFor table names := by
  have extend : ∀ names : List Name, ∀ found : List Choice, found ≠ [] →
      names.foldl (extendFrom table) found ≠ [] := by
    intro names
    induction names with
    | nil => exact fun found some_choice => some_choice
    | cons name names ih =>
      refine fun found some_choice => ih _ ?_
      unfold extendFrom
      split
      next => exact some_choice
      next => exact some_choice
      next bs filled _ =>
        obtain ⟨choice, hc⟩ := List.exists_mem_of_ne_nil _ some_choice
        obtain ⟨b, hb⟩ := List.exists_mem_of_ne_nil bs filled
        exact List.ne_nil_of_mem (List.mem_flatMap.2 ⟨choice, hc, List.mem_map_of_mem hb⟩)
  exact List.exists_mem_of_ne_nil _ (extend names [[]] (List.cons_ne_nil _ _))

lemma mem_componentNames {v : Variable} (h : v ∈ c.mentions) : v.component ∈ c.componentNames :=
  Distinct.mem_ofList.2 (List.mem_map_of_mem h)

lemma exists_of_mem_componentNames (h : name ∈ c.componentNames) :
    ∃ v ∈ c.mentions, v.component = name :=
  List.mem_map.1 (Distinct.mem_ofList.1 h)

/-- A constraint that has been checked is satisfied by all boxes of what is bound. -/
theorem checkAt_of_holds {constraints : List Constraint} {absent : List Name}
    (h : holds constraints table absent = .ok true) (hc : c ∈ constraints)
    (applies : isVacuous absent c = false) (picks : Picks table boxes c.componentNames) :
    c.checkAt boxes = .ok true := by
  have one := Outcome.allM_eq_ok.1 h c hc
  rw [applies, if_neg Bool.false_ne_true] at one
  obtain ⟨choice, hch, agree⟩ := exists_choice picks
  have checked := Outcome.allM_eq_ok.1 one choice hch
  rwa [Constraint.checkAt_congr fun v hv => agree v.component (mem_componentNames hv)] at checked

section verdicts

variable {constraints : List Constraint}

/-- A choice of boxes certainly violates a constraint: with exact integers, the boxes that are chosen
make it false, whatever other boxes there may come to be. -/
def IsViolated (table : BoxTable) (c : Constraint) : Prop :=
  ∃ choice ∈ choices c table, c.value? (Assignment.ofBoxes choice.box?) = some false

/-- Only what is certainly violated is ruled out on the way. -/
lemma exists_isViolated (h : mayHold constraints table = .ok false) :
    ∃ c ∈ constraints, IsViolated table c := by
  obtain ⟨c, hc, one⟩ := Outcome.exists_of_allM_false h
  obtain ⟨choice, hch, tested⟩ := Outcome.exists_of_allM_false one
  obtain ⟨value, valued, failed⟩ := Outcome.bind_eq_ok.1 tested
  have decided : value = some false := by simpa using Outcome.pure_eq_ok.1 failed
  exact ⟨c, hc, choice, hch, (Constraint.value?_of_valueAt valued).trans decided⟩

/-- Whatever is certainly violated is ruled out on the way. -/
lemma not_isViolated (h : mayHold constraints table = .ok true) (hc : c ∈ constraints) :
    ¬ IsViolated table c := by
  intro ⟨choice, hch, violated⟩
  have tested := Outcome.allM_eq_ok.1 (Outcome.allM_eq_ok.1 h c hc) choice hch
  obtain ⟨value, valued, passed⟩ := Outcome.bind_eq_ok.1 tested
  rw [← Constraint.value?_of_valueAt valued, violated] at passed
  cases passed

end verdicts

section oneEach

variable {constraints : List Constraint} {absent : List Name}

/-- At most one box is bound to each component, the one that a full choice of boxes has for it. -/
def OneEach (table : BoxTable) (boxes : Name → Option Box) : Prop :=
  ∀ name bs, table.get? name = some bs → ∃ b, bs = [b] ∧ boxes name = some b

namespace OneEach

variable (single : OneEach table boxes) (lawful : ∀ c ∈ constraints, c.IsLawful)

include single

lemma extends_of_mem (mem : choice ∈ choicesFor table names) :
    (Assignment.ofBoxes boxes).Extends (Assignment.ofBoxes choice.box?) := by
  refine Assignment.ofBoxes_extends fun name b hb => ?_
  obtain ⟨-, bs, eq, hb⟩ := (drawn_of_mem_choicesFor mem).taken name b hb
  obtain ⟨b', rfl, at_name⟩ := single name bs eq
  rwa [List.mem_singleton.1 hb]

include lawful

/-- What is ruled out on the way is violated once all boxes are known. -/
theorem exists_violated (h : mayHold constraints table = .ok false) :
    ∃ c ∈ constraints, c.value? (Assignment.ofBoxes boxes) = some false := by
  obtain ⟨c, hc, choice, hch, early⟩ := exists_isViolated h
  exact ⟨c, hc, c.value?_mono (single.extends_of_mem hch) (lawful c hc) early⟩

/-- The final check succeeds exactly if all constraints are true on all boxes. -/
theorem holds_iff {verdict : Bool} (applies : ∀ c ∈ constraints, isVacuous absent c = false)
    (picks : ∀ c ∈ constraints, Picks table boxes c.componentNames)
    (h : holds constraints table absent = .ok verdict) :
    verdict = true ↔ ∀ c ∈ constraints, c.value? (Assignment.ofBoxes boxes) = some true := by
  cases verdict with
  | true =>
    refine iff_of_true rfl fun c hc => Constraint.value?_of_checkAt ?_
    exact checkAt_of_holds h hc (applies c hc) (picks c hc)
  | false =>
    obtain ⟨c, hc, one⟩ := Outcome.exists_of_allM_false h
    rw [applies c hc, if_neg Bool.false_ne_true] at one
    obtain ⟨choice, hch, failed⟩ := Outcome.exists_of_allM_false one
    have violated := c.value?_mono (single.extends_of_mem hch) (lawful c hc)
      (Constraint.value?_of_checkAt failed)
    refine iff_of_false Bool.false_ne_true fun all => ?_
    rw [all c hc] at violated
    cases violated

end OneEach

end oneEach

end SpatialGrammar.Recognition
