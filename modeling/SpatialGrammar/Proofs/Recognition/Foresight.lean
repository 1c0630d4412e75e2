import Mathlib
import SpatialGrammar.Proofs.Grammar.Build
import SpatialGrammar.Proofs.Recognition.Evaluability

/-!
# What is ruled out on the way

While a match is being assembled its constraints are tried on the boxes that are bound so far, and
the attempt is given up if one of them is certainly violated. Main statements: `rejection_lasts`,
what is given up would have to be given up whatever else were bound, and `mayHold_eq_of_holds`, when
the finished match is accepted, the attempt can only have been given up for a constraint that the
final check passes over.
-/

namespace SpatialGrammar.Recognition

variable {table more : BoxTable} {names : List Name} {choice : Choice} {c : Constraint}
variable {constraints : List Constraint}

/-- One table binds all boxes that another one binds, and maybe more boxes, to the same components
and to others. -/
def Grows (table more : BoxTable) : Prop :=
  ∀ name bs, table.get? name = some bs → bs ≠ [] → ∃ cs, more.get? name = some cs ∧ bs ⊆ cs

/-- Components to which no boxes are bound do not matter for the choices. -/
lemma choicesFor_filter (table : BoxTable) (names : List Name) :
    choicesFor table (names.filter fun name => !((table.get? name).getD []).isEmpty) =
      choicesFor table names := by
  rw [choicesFor_eq_foldl, choicesFor_eq_foldl, List.foldl_filter]
  congr 1
  funext found name
  unfold extendFrom
  cases table.get? name with
  | none => rfl
  | some bs => cases bs <;> rfl

/-- Every choice is part of one from a table that binds more. -/
lemma exists_wider_choice (grows : Grows table more) (mem : choice ∈ choicesFor table names) :
    ∃ wider ∈ choicesFor more names, ∀ name b, choice.box? name = some b →
      Choice.box? wider name = some b := by
  have drawn := drawn_of_mem_choicesFor mem
  -- a component that the choice leaves out takes the first box that is bound to it now
  let boxes : Name → Option Box := fun name =>
    (choice.box? name).or (((more.get? name).getD []).head?)
  let bound := names.filter fun name => !((more.get? name).getD []).isEmpty
  have picks : Picks more boxes bound := by
    intro name hn
    obtain ⟨-, filled⟩ := List.mem_filter.1 hn
    cases taken : choice.box? name with
    | some b =>
      obtain ⟨-, bs, eq, hb⟩ := drawn.taken name b taken
      obtain ⟨cs, eq', sub⟩ := grows name bs eq (List.ne_nil_of_mem hb)
      exact ⟨cs, eq', b, sub hb, by simp [boxes, taken]⟩
    | none =>
      cases found : more.get? name with
      | none => simp [found] at filled
      | some cs =>
        cases cs with
        | nil => simp [found] at filled
        | cons b cs => exact ⟨b :: cs, rfl, b, List.mem_cons_self, by simp [boxes, taken, found]⟩
  obtain ⟨wider, hw, agree⟩ := exists_choice picks
  rw [choicesFor_filter] at hw
  refine ⟨wider, hw, fun name b taken => ?_⟩
  obtain ⟨hn, bs, eq, hb⟩ := drawn.taken name b taken
  obtain ⟨cs, eq', sub⟩ := grows name bs eq (List.ne_nil_of_mem hb)
  have filled : name ∈ bound := by
    refine List.mem_filter.2 ⟨hn, ?_⟩
    simpa [eq'] using List.ne_nil_of_mem (sub hb)
  rw [agree name filled]
  simp [boxes, taken]

/-- What is certainly violated stays so when more boxes are bound. -/
theorem IsViolated.grow (lawful : c.IsLawful) (grows : Grows table more) (h : IsViolated table c) :
    IsViolated more c := by
  obtain ⟨choice, hch, violated⟩ := h
  obtain ⟨wider, hw, keeps⟩ := exists_wider_choice grows hch
  exact ⟨wider, hw, c.value?_mono (Assignment.ofBoxes_extends keeps) lawful violated⟩

/-- The attempt to tell whether constraints may hold has a verdict, unless an integer leaves the
words. -/
lemma mayHold_cases (constraints : List Constraint) (table : BoxTable) :
    mayHold constraints table = .ok true ∨ mayHold constraints table = .ok false ∨
      mayHold constraints table = .error .overflow := by
  by_cases fits : mayHold constraints table = .error .overflow
  · exact .inr (.inr fits)
  obtain ⟨verdict, eq⟩ := (mayHold_onlyOverflows constraints table).exists_ok fits
  cases verdict with
  | true => exact .inl eq
  | false => exact .inr (.inl eq)

/-- What is ruled out on the way stays ruled out. With exact integers, a constraint without conditions
of the user that is certainly violated is certainly violated when more boxes are bound, too. So where
the constraints may hold for more boxes they may hold for fewer, unless an integer leaves the words
there: parts of a constraint that need not be looked at for more boxes may have to be for fewer. -/
theorem rejection_lasts (plain : ∀ c ∈ constraints, c.conditions = []) (grows : Grows table more) :
    (∀ c ∈ constraints, IsViolated table c → IsViolated more c) ∧
    (mayHold constraints more = .ok true →
      mayHold constraints table = .ok true ∨ mayHold constraints table = .error .overflow) ∧
    (mayHold constraints table = .ok false →
      mayHold constraints more = .ok false ∨ mayHold constraints more = .error .overflow) := by
  have lasts : ∀ c ∈ constraints, IsViolated table c → IsViolated more c := fun c hc =>
    IsViolated.grow (Constraint.isLawful_of_plain (plain c hc)) grows
  refine ⟨lasts, fun passed => ?_, fun failed => ?_⟩
  · obtain passed' | failed | overflow := mayHold_cases constraints table
    · exact .inl passed'
    · obtain ⟨c, hc, violated⟩ := exists_isViolated failed
      exact absurd (lasts c hc violated) (not_isViolated passed hc)
    · exact .inr overflow
  · obtain passed | failed' | overflow := mayHold_cases constraints more
    · obtain ⟨c, hc, violated⟩ := exists_isViolated failed
      exact absurd (lasts c hc violated) (not_isViolated passed hc)
    · exact .inl failed'
    · exact .inr overflow

/-- One box is bound to `a`. -/
def oneBound : BoxTable := NameMap.ofList [("a", [Box.unit 2 0])]

/-- Another box is bound to `a`, too, and one to `b`. -/
def threeBound : BoxTable :=
  NameMap.ofList [("a", [Box.unit 2 0, Box.unit 5 1]), ("b", [Box.unit 0 0])]

lemma grows_threeBound : Grows oneBound threeBound := by
  intro name bs eq _
  by_cases at_a : "a" = name
  · subst at_a
    cases eq
    exact ⟨_, rfl, by decide⟩
  · have unbound : oneBound.get? name = none := NameMap.get?_insert_of_ne _ (Ne.symm at_a) _
    rw [unbound] at eq
    cases eq

/-- Of two constraints on `a` and `b`, one may hold for all three boxes, hence for the first one, and
the other one is ruled out for the first box, hence for all three. -/
theorem rejection_lasts_three :
    let rightOf : Constraint := .formula (.compare (.var ⟨"b", .left⟩) .lt (.var ⟨"a", .left⟩))
    let below : Constraint :=
      .formula (.conj [.compare (.var ⟨"b", .left⟩) .lt (.number 9),
        .compare (.var ⟨"a", .top⟩) .gt (.number 0)])
    Grows oneBound threeBound ∧ rightOf.conditions = [] ∧ below.conditions = [] ∧
      mayHold [rightOf] threeBound = .ok true ∧
      (mayHold [rightOf] oneBound = .ok true ∨ mayHold [rightOf] oneBound = .error .overflow) ∧
      mayHold [below] oneBound = .ok false ∧
      (mayHold [below] threeBound = .ok false ∨ mayHold [below] threeBound = .error .overflow) := by
  intro rightOf below
  have passed : mayHold [rightOf] threeBound = .ok true := by cbv
  have failed : mayHold [below] oneBound = .ok false := by cbv
  have plain : ∀ c ∈ [rightOf], c.conditions = [] := List.forall_mem_singleton.2 rfl
  have plain' : ∀ c ∈ [below], c.conditions = [] := List.forall_mem_singleton.2 rfl
  obtain ⟨-, stays, -⟩ := rejection_lasts plain grows_threeBound
  obtain ⟨-, -, lasts⟩ := rejection_lasts plain' grows_threeBound
  exact ⟨grows_threeBound, rfl, rfl, passed, stays passed, failed, lasts failed⟩

/-- For all three boxes it is enough that `b` lies in the first two columns; for the first box alone
the product has to be looked at, which leaves the words. -/
theorem product_tried_early :
    let near : Constraint :=
      .formula (.disj [.compare (.var ⟨"b", .left⟩) .lt (.number 2),
        .compare (.mul (.var ⟨"a", .left⟩) (.number 9223372036854775807)) .gt (.number 0)])
    near.conditions = [] ∧ Grows oneBound threeBound ∧ mayHold [near] threeBound = .ok true ∧
      mayHold [near] oneBound = .error .overflow := by
  exact ⟨rfl, grows_threeBound, by cbv, by cbv⟩

section finished

variable {absent : List Name}

/-- Every choice that satisfies a constraint might satisfy it. -/
lemma mayHoldOne_of_holdsOne (h : holdsOne table c = .ok true) : mayHoldOne table c = .ok true := by
  refine Outcome.allM_eq_ok.2 fun choice mem => ?_
  have checked := Outcome.allM_eq_ok.1 h choice mem
  exact Outcome.bind_eq_ok.2 ⟨some true, Constraint.valueAt_of_checkAt checked, rfl⟩

/-- When a finished match satisfies its constraints, it depends on those alone that the final check
passes over whether they had been ruled out on the way: the ones that mention the parent or an absent
component. Nothing has been ruled out if there are none, and otherwise only if one of them is
certainly violated by what is bound. -/
theorem mayHold_eq_of_holds (h : holds constraints table absent = .ok true) :
    mayHold constraints table = mayHold (constraints.filter (isVacuous absent)) table ∧
    ((∀ c ∈ constraints, isVacuous absent c = false) → mayHold constraints table = .ok true) ∧
    (mayHold constraints table = .ok false →
      ∃ c ∈ constraints, isVacuous absent c = true ∧ IsViolated table c) := by
  have checked : ∀ c ∈ constraints, isVacuous absent c = false → mayHoldOne table c = .ok true := by
    intro c hc applies
    have one := Outcome.allM_eq_ok.1 h c hc
    rw [applies, if_neg Bool.false_ne_true] at one
    exact mayHoldOne_of_holdsOne one
  have skipped : mayHold constraints table =
      mayHold (constraints.filter (isVacuous absent)) table := (Outcome.allM_filter checked).symm
  refine ⟨skipped, fun none => ?_, fun failed => ?_⟩
  · exact Outcome.allM_eq_ok.2 fun c hc => checked c hc (none c hc)
  · rw [skipped] at failed
    obtain ⟨c, hc, violated⟩ := exists_isViolated failed
    obtain ⟨mem, vacuous⟩ := List.mem_filter.1 hc
    exact ⟨c, mem, vacuous, violated⟩

/-- A digit and a letter to the right of it, which may be missing. A digit with a letter does not
stand in the first column. -/
def labelled : Pattern ℚ where
  name := "pair"
  kind := .general
  components := [{ name := "a", pattern := "digit", weight := 1 },
    { name := "b", pattern := "letter", count := Region.between 0 1, weight := 1 }]
  constraints := [.formula (.conj [.compare (.var ⟨"a", .left⟩) .ge (.number 1),
      .compare (.var ⟨"b", .left⟩) .gt (.var ⟨"a", .left⟩)]),
    .formula (.within (.var ⟨Name.own, .width⟩) (Interval.atMost 2))]

/-- A digit in the first column, and a grammar of digits with letters. -/
def firstColumn : Scene ℚ where
  grammar := {
    patterns := ⟨[("digit", { name := "digit", kind := .cell "d" }),
      ("letter", { name := "letter", kind := .cell "l" }), ("pair", labelled)]⟩
    root := "pair"
    cellTypes := ⟨[("d", ["[0-9]"]), ("l", ["[a-z]"])]⟩
    options := Options.standard
    ancestors := ⟨[("digit", []), ("letter", []), ("pair", [])]⟩
    waves := [["digit", "letter"], ["pair"]] }
  options := Options.standard
  cells := []
  registry := Registry.empty.register (.cell "digit" (Box.unit 0 0) "1" "d" 1) []

/-- A digit alone, in the first row. -/
def loneDigit (x : Int) : Assembly ℚ :=
  Assembly.empty.bind "a" [Candidate.of (.cell "digit" (Box.unit x 0) "1" "d" 1)]

/-- A digit alone in another column satisfies what there is to check, and has not been ruled out for
the constraint on its letter. -/
theorem mayHold_eq_of_holds_digit :
    let constraints := compositeConstraints firstColumn.grammar labelled
    let boxes := (loneDigit 3).boxes.insert Name.own [Box.unit 3 0]
    let absent := absentNames labelled.components (loneDigit 3).bound
    holds constraints boxes absent = .ok true ∧
      (constraints.filter (isVacuous absent)).length = 1 ∧
      mayHold constraints boxes = mayHold (constraints.filter (isVacuous absent)) boxes ∧
      mayHold (constraints.filter (isVacuous absent)) boxes = .ok true := by
  intro constraints boxes absent
  have accepted : holds constraints boxes absent = .ok true := by cbv
  exact ⟨accepted, by cbv, (mayHold_eq_of_holds accepted).1, by cbv⟩

/-- A digit alone in the first column satisfies what there is to check, but it has been ruled out for
the constraint on its letter, before it was known that there is none. -/
theorem accepted_but_ruled_out :
    let constraints := compositeConstraints firstColumn.grammar labelled
    let boxes := (loneDigit 0).boxes.insert Name.own [Box.unit 0 0]
    firstColumn.grammar.IsBuilt ∧ firstColumn.grammar.pattern? "pair" = some labelled ∧
      holds constraints boxes (absentNames labelled.components (loneDigit 0).bound) = .ok true ∧
      mayHold constraints boxes = .ok false ∧
      (∃ m, (loneDigit 0).finish? labelled constraints (mayLieIn none) = .ok (some m)) ∧
      structureMatches firstColumn labelled none = .ok [] := by
  intro constraints boxes
  have built : firstColumn.grammar.IsBuilt := Grammar.isBuilt_of_build (by with_unfolding_all rfl)
  have finished : ((loneDigit 0).finish? labelled constraints (mayLieIn none)).toOption.any
      (·.isSome) = true := by
    cbv
  obtain ⟨o, eq, found⟩ := Outcome.exists_of_any_toOption finished
  obtain ⟨m, rfl⟩ := Option.isSome_iff_exists.1 found
  exact ⟨built, rfl, by cbv, by cbv, ⟨m, eq⟩, by cbv⟩

end finished

end SpatialGrammar.Recognition
