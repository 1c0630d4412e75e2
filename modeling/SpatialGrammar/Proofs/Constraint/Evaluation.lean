import SpatialGrammar.Proofs.Constraint.Induction
import SpatialGrammar.Proofs.Constraint.Kleene
import SpatialGrammar.Proofs.Outcome

/-!
# Partial and strict evaluation

A partial evaluation only decides what the values at hand decide: with values for more variables the
verdict stays, and with values for all of them there is one. Main statements:
`Constraint.value?_mono` and `Constraint.exists_value`, which rely on the user's conditions to do
the same, and `Constraint.check_settles` for the strict evaluation of constraints without such
conditions.
-/

namespace SpatialGrammar

namespace Assignment

/-- One assignment gives the values of another one, and maybe values to more variables. -/
def Extends (σ ρ : Assignment) : Prop := ∀ v n, ρ v = some n → σ v = some n

/-- An assignment gives values to some variables. -/
def Knows (ρ : Assignment) (vs : List Variable) : Prop := ∀ v ∈ vs, ∃ n, ρ v = some n

variable {ρ σ : Assignment} {vs ws : List Variable}

lemma Knows.left (h : ρ.Knows (vs ++ ws)) : ρ.Knows vs :=
  fun v hv => h v (List.mem_append_left ws hv)

lemma Knows.right (h : ρ.Knows (vs ++ ws)) : ρ.Knows ws :=
  fun v hv => h v (List.mem_append_right vs hv)

lemma Knows.of_mem_flatMap {β : Type} {items : List β} {f : β → List Variable} {a : β}
    (h : ρ.Knows (items.flatMap f)) (mem : a ∈ items) : ρ.Knows (f a) :=
  fun v hv => h v (List.mem_flatMap_of_mem mem hv)

lemma Knows.sorted_iff : ρ.Knows (Variable.sorted vs) ↔ ρ.Knows vs := by
  simp only [Knows, Variable.sorted, Distinct.mem_ofList]

lemma knows_or_missing (ρ : Assignment) (vs : List Variable) :
    ρ.Knows vs ∨ ∃ v ∈ vs, ρ v = none := by
  by_cases missing : ∃ v ∈ vs, ρ v = none
  · exact .inr missing
  · refine .inl fun v hv => Option.ne_none_iff_exists'.1 fun unknown => missing ⟨v, hv, unknown⟩

/-- Boxes for more components give values to more variables. -/
lemma ofBoxes_extends {boxes boxes' : Name → Option Box}
    (h : ∀ name b, boxes name = some b → boxes' name = some b) :
    (ofBoxes boxes').Extends (ofBoxes boxes) := by
  intro v n hv
  obtain ⟨b, hb, rfl⟩ := Option.map_eq_some_iff.1 hv
  exact Option.map_eq_some_iff.2 ⟨b, h v.component b hb, rfl⟩

end Assignment

variable {ρ σ : Assignment} {n : Int} {b : Bool}

/-- Two values are combined if both are there. -/
lemma combined_eq_some {β γ : Type} {op : β → β → γ} {x y : Option β} {z : γ} :
    (do return op (← x) (← y)) = some z ↔ ∃ a b, x = some a ∧ y = some b ∧ op a b = z := by
  cases x <;> cases y <;> simp

namespace Term

lemma value?_mono (more : σ.Extends ρ) {a : Term} (h : a.value? ρ = some n) :
    a.value? σ = some n := by
  induction a generalizing n with
  | number m => exact h
  | var v => exact more v n h
  | add a b iha ihb =>
    obtain ⟨x, y, hx, hy, eq⟩ := combined_eq_some.1 h
    exact combined_eq_some.2 ⟨x, y, iha hx, ihb hy, eq⟩
  | sub a b iha ihb =>
    obtain ⟨x, y, hx, hy, eq⟩ := combined_eq_some.1 h
    exact combined_eq_some.2 ⟨x, y, iha hx, ihb hy, eq⟩
  | mul a b iha ihb =>
    obtain ⟨x, y, hx, hy, eq⟩ := combined_eq_some.1 h
    exact combined_eq_some.2 ⟨x, y, iha hx, ihb hy, eq⟩
  | neg a ih =>
    obtain ⟨x, hx, eq⟩ := Option.bind_eq_some_iff.1 h
    exact Option.bind_eq_some_iff.2 ⟨x, ih hx, eq⟩

lemma exists_value {a : Term} (known : ρ.Knows a.mentions) : ∃ n, a.value? ρ = some n := by
  induction a with
  | number m => exact ⟨m, rfl⟩
  | var v => exact known v (List.mem_singleton_self v)
  | add a b iha ihb =>
    obtain ⟨x, hx⟩ := iha known.left
    obtain ⟨y, hy⟩ := ihb known.right
    exact ⟨x + y, combined_eq_some.2 ⟨x, y, hx, hy, rfl⟩⟩
  | sub a b iha ihb =>
    obtain ⟨x, hx⟩ := iha known.left
    obtain ⟨y, hy⟩ := ihb known.right
    exact ⟨x - y, combined_eq_some.2 ⟨x, y, hx, hy, rfl⟩⟩
  | mul a b iha ihb =>
    obtain ⟨x, hx⟩ := iha known.left
    obtain ⟨y, hy⟩ := ihb known.right
    exact ⟨x * y, combined_eq_some.2 ⟨x, y, hx, hy, rfl⟩⟩
  | neg a ih =>
    obtain ⟨x, hx⟩ := ih known
    exact ⟨-x, Option.bind_eq_some_iff.2 ⟨x, hx, rfl⟩⟩

end Term

namespace Formula

lemma value?_mono (more : σ.Extends ρ) (a : Formula) (h : a.value? ρ = some b) :
    a.value? σ = some b := by
  induction a using Formula.induction generalizing b with
  | const c => exact h
  | compare x c y =>
    obtain ⟨m, n, hm, hn, eq⟩ := combined_eq_some.1 h
    exact combined_eq_some.2 ⟨m, n, Term.value?_mono more hm, Term.value?_mono more hn, eq⟩
  | within x range =>
    obtain ⟨m, hm, eq⟩ := Option.bind_eq_some_iff.1 h
    exact Option.bind_eq_some_iff.2 ⟨m, Term.value?_mono more hm, eq⟩
  | conj items ih =>
    rw [value?, values?_eq_map] at h ⊢
    exact Kleene.all_mono (fun a mem _ => ih a mem) h
  | disj items ih =>
    rw [value?, values?_eq_map] at h ⊢
    exact Kleene.any_mono (fun a mem _ => ih a mem) h
  | xor x y ihx ihy => exact Kleene.xor_mono (fun _ => ihx) (fun _ => ihy) h
  | not x ih => exact Kleene.not_mono (fun _ => ih) h

lemma exists_value (a : Formula) (known : ρ.Knows a.mentions) : ∃ b, a.value? ρ = some b := by
  induction a using Formula.induction with
  | const c => exact ⟨c, rfl⟩
  | compare x c y =>
    obtain ⟨m, hm⟩ := Term.exists_value known.left
    obtain ⟨n, hn⟩ := Term.exists_value known.right
    exact ⟨c.holds m n, combined_eq_some.2 ⟨m, n, hm, hn, rfl⟩⟩
  | within x range =>
    obtain ⟨m, hm⟩ := Term.exists_value known
    exact ⟨range.contains m, Option.bind_eq_some_iff.2 ⟨m, hm, rfl⟩⟩
  | conj items ih =>
    rw [mentions, mentionsOf_eq_flatMap] at known
    rw [value?, values?_eq_map]
    exact Kleene.exists_all (List.forall_mem_map.2 fun a mem => ih a mem (known.of_mem_flatMap mem))
  | disj items ih =>
    rw [mentions, mentionsOf_eq_flatMap] at known
    rw [value?, values?_eq_map]
    exact Kleene.exists_any (List.forall_mem_map.2 fun a mem => ih a mem (known.of_mem_flatMap mem))
  | xor x y ihx ihy => exact Kleene.exists_xor (ihx known.left) (ihy known.right)
  | not x ih => exact Kleene.exists_not (ih known)

end Formula

namespace Extent

lemma value?_mono (more : σ.Extends ρ) {e : Extent} (h : e.value? ρ = some b) :
    e.value? σ = some b := by
  refine Kleene.all_mono (fun limit _ x hx => ?_) h
  obtain ⟨n, hn, eq⟩ := Option.map_eq_some_iff.1 hx
  exact Option.map_eq_some_iff.2 ⟨n, more _ n hn, eq⟩

lemma exists_value {e : Extent} (known : ρ.Knows e.mentions) : ∃ b, e.value? ρ = some b := by
  refine Kleene.exists_all (List.forall_mem_map.2 fun limit mem => ?_)
  obtain ⟨n, hn⟩ := known (Variable.of e.component limit.1) (List.mem_map_of_mem mem)
  exact ⟨limit.2.contains n, Option.map_eq_some_iff.2 ⟨n, hn, rfl⟩⟩

end Extent

/-- What is asked of the conditions that a user supplies, however their subjects are renamed: they
have a verdict on the values of all their variables, and a verdict on some of the values stays when
the others become known. -/
structure Condition.IsLawful (k : Condition) : Prop where
  decides : ∀ (τ : Renaming) {ρ : Assignment}, ρ.Knows (k.rename τ).mentions →
    ∃ b, (k.rename τ).value? ρ = some b
  keeps : ∀ (τ : Renaming) {ρ σ : Assignment} {b : Bool}, σ.Extends ρ →
    (k.rename τ).value? ρ = some b → (k.rename τ).value? σ = some b

namespace Condition

variable {k : Condition}

lemma rename_id : k.rename id = k := by rw [rename, List.map_id]

lemma rename_rename {τ υ : Renaming} : (k.rename τ).rename υ = k.rename (υ ∘ τ) := by
  simp only [rename, List.map_map]

lemma IsLawful.rename (h : k.IsLawful) (τ : Renaming) : (k.rename τ).IsLawful where
  decides υ _ known := by
    rw [rename_rename] at known ⊢
    exact h.decides _ known
  keeps υ _ _ _ more := by
    rw [rename_rename]
    exact h.keeps _ more

lemma IsLawful.exists_value (h : k.IsLawful) (known : ρ.Knows k.mentions) :
    ∃ b, k.value? ρ = some b := by
  rw [← rename_id (k := k)] at known ⊢
  exact h.decides id known

lemma IsLawful.value?_mono (h : k.IsLawful) (more : σ.Extends ρ) (decided : k.value? ρ = some b) :
    k.value? σ = some b := by
  rw [← rename_id (k := k)] at decided ⊢
  exact h.keeps id more decided

end Condition

namespace Constraint

mutual

/-- The user's conditions in a constraint. -/
def conditions : Constraint → List Condition
  | const _ | formula _ | extent _ | placement _ => []
  | conj items | disj items => conditionsOf items
  | xor a b => a.conditions ++ b.conditions
  | not a => a.conditions
  | condition k => [k]

/-- The user's conditions in constraints. -/
def conditionsOf : List Constraint → List Condition
  | [] => []
  | a :: rest => a.conditions ++ conditionsOf rest

end

lemma conditionsOf_eq_flatMap (items : List Constraint) :
    conditionsOf items = items.flatMap conditions := by
  induction items with
  | nil => rfl
  | cons a rest ih => rw [conditionsOf, ih, List.flatMap_cons]

/-- All of the user's conditions in a constraint are lawful. -/
def IsLawful (c : Constraint) : Prop := ∀ k ∈ c.conditions, k.IsLawful

lemma isLawful_of_plain {c : Constraint} (plain : c.conditions = []) : c.IsLawful := by
  intro k mem
  rw [plain] at mem
  cases mem

section Lawful

variable {a c : Constraint} {items : List Constraint}

lemma IsLawful.left (lawful : (xor a c).IsLawful) : a.IsLawful :=
  fun k mem => lawful k (List.mem_append_left c.conditions mem)

lemma IsLawful.right (lawful : (xor a c).IsLawful) : c.IsLawful :=
  fun k mem => lawful k (List.mem_append_right a.conditions mem)

lemma IsLawful.of_mem (lawful : ∀ k ∈ conditionsOf items, k.IsLawful) (mem : a ∈ items) :
    a.IsLawful := by
  rw [conditionsOf_eq_flatMap] at lawful
  exact fun k hk => lawful k (List.mem_flatMap_of_mem mem hk)

end Lawful

/-- A verdict on a constraint stays when more variables get values. -/
theorem value?_mono (more : σ.Extends ρ) (c : Constraint) (lawful : c.IsLawful)
    (h : c.value? ρ = some b) : c.value? σ = some b := by
  induction c using Constraint.induction generalizing b with
  | const c => exact h
  | formula a => exact a.value?_mono more h
  | extent e => exact e.value?_mono more h
  | placement p => exact p.toFormula.value?_mono more h
  | conj items ih =>
    rw [value?, values?_eq_map] at h ⊢
    exact Kleene.all_mono (fun a mem _ => ih a mem (IsLawful.of_mem lawful mem)) h
  | disj items ih =>
    rw [value?, values?_eq_map] at h ⊢
    exact Kleene.any_mono (fun a mem _ => ih a mem (IsLawful.of_mem lawful mem)) h
  | xor a c iha ihc => exact Kleene.xor_mono (fun _ => iha lawful.left) (fun _ => ihc lawful.right) h
  | not a ih => exact Kleene.not_mono (fun _ => ih lawful) h
  | condition k => exact (lawful k (List.mem_singleton_self k)).value?_mono more h

/-- There is a verdict on a constraint all of whose variables have values. -/
theorem exists_value (c : Constraint) (lawful : c.IsLawful) (known : ρ.Knows c.mentions) :
    ∃ b, c.value? ρ = some b := by
  induction c using Constraint.induction with
  | const c => exact ⟨c, rfl⟩
  | formula a => exact a.exists_value known
  | extent e => exact e.exists_value known
  | placement p => exact p.toFormula.exists_value known
  | conj items ih =>
    rw [mentions, mentionsOf_eq_flatMap] at known
    rw [value?, values?_eq_map]
    exact Kleene.exists_all <| List.forall_mem_map.2 fun a mem =>
      ih a mem (IsLawful.of_mem lawful mem) (known.of_mem_flatMap mem)
  | disj items ih =>
    rw [mentions, mentionsOf_eq_flatMap] at known
    rw [value?, values?_eq_map]
    exact Kleene.exists_any <| List.forall_mem_map.2 fun a mem =>
      ih a mem (IsLawful.of_mem lawful mem) (known.of_mem_flatMap mem)
  | xor a c iha ihc =>
    exact Kleene.exists_xor (iha lawful.left known.left) (ihc lawful.right known.right)
  | not a ih => exact Kleene.exists_not (ih lawful known)
  | condition k => exact (lawful k (List.mem_singleton_self k)).exists_value known

end Constraint

section Strict

variable {description : String} {needed : List Variable} {value : Option Bool}
  {e : ConstraintError}

lemma strictValue_eq_ok (known : ρ.Knows needed) :
    strictValue description needed ρ value = .ok b ↔ value = some b := by
  have found : (needed.find? fun v => (ρ v).isNone) = none := by
    refine List.find?_eq_none.2 fun v hv => ?_
    obtain ⟨n, hn⟩ := known v hv
    simp [hn]
  cases value <;> simp [strictValue, found]

lemma strictValue_of_missing (missing : ∃ v ∈ needed, ρ v = none) :
    ∃ v ∈ needed, ρ v = none ∧
      strictValue description needed ρ value = .error (.missingVariable description v.text) := by
  cases found : needed.find? fun v => (ρ v).isNone with
  | none =>
    obtain ⟨v, hv, unknown⟩ := missing
    have := List.find?_eq_none.1 found v hv
    simp [unknown] at this
  | some v =>
    refine ⟨v, List.mem_of_find?_eq_some found, ?_, by simp [strictValue, found]⟩
    simpa using List.find?_some found

end Strict

namespace Constraint

variable {c : Constraint}

lemma check_eq_ok_iff (known : ρ.Knows c.variableList) :
    c.check ρ = .ok b ↔ c.value? ρ = some b :=
  strictValue_eq_ok known

lemma exists_check (lawful : c.IsLawful) (known : ρ.Knows c.variableList) :
    ∃ b, c.check ρ = .ok b := by
  obtain ⟨b, hb⟩ := c.exists_value lawful (Assignment.Knows.sorted_iff.1 known)
  exact ⟨b, (check_eq_ok_iff known).2 hb⟩

lemma check_of_boundedCheck (h : c.boundedCheck ρ = .ok b) : c.check ρ = .ok b := by
  unfold boundedCheck at h
  rw [← Outcome.mapError_eq_ok]
  split at h
  · exact (Outcome.bind_eq_ok.1 h).choose_spec.2
  · exact h

/-- The strict evaluation has a verdict if all variables have values and no integer leaves the
words. -/
lemma boundedCheck_eq_ok_iff : c.boundedCheck ρ = .ok b ↔
    ρ.Knows c.mentions ∧ Word.holdsAll (c.workings ρ) = true ∧ c.value? ρ = some b := by
  unfold boundedCheck
  obtain known | missing := ρ.knows_or_missing c.mentions
  · have listed : ρ.Knows c.variableList := Assignment.Knows.sorted_iff.2 known
    have found : (c.variableList.find? fun v => (ρ v).isNone) = none := by
      refine List.find?_eq_none.2 fun v hv => ?_
      obtain ⟨n, hn⟩ := listed v hv
      simp [hn]
    rw [found, Option.isNone_none, if_pos rfl]
    simp only [Outcome.bind_eq_ok, Outcome.guardWords_eq_ok, exists_const, Outcome.mapError_eq_ok,
      check_eq_ok_iff listed, known, true_and]
  · obtain ⟨v, hv, unknown⟩ := missing
    have unlisted : ¬ ρ.Knows c.mentions := fun known => by
      obtain ⟨n, hn⟩ := known v hv
      rw [unknown] at hn
      cases hn
    refine iff_of_false (fun h => ?_) fun h => unlisted h.1
    obtain ⟨w, -, -, failed⟩ := strictValue_of_missing ⟨v, Distinct.mem_ofList.2 hv, unknown⟩
    have checked := check_of_boundedCheck h
    rw [check, variableList, Variable.sorted, failed] at checked
    cases checked

section boxes

variable {boxes : Name → Option Box}

/-- What is decided on the way is what the values at hand decide. -/
lemma value?_of_valueAt {verdict : Option Bool} (h : c.valueAt boxes = .ok verdict) :
    c.value? (Assignment.ofBoxes boxes) = verdict := by
  obtain ⟨-, -, h⟩ := Outcome.bind_eq_ok.1 h
  exact (Outcome.within_eq_ok.1 h).2

lemma checkAt_eq_ok_iff : c.checkAt boxes = .ok b ↔
    Word.holdsAll (c.readingWorkings boxes) = true ∧
      (Assignment.ofBoxes boxes).Knows c.mentions ∧
      Word.holdsAll (c.workings (Assignment.ofBoxes boxes)) = true ∧
      c.value? (Assignment.ofBoxes boxes) = some b := by
  simp only [checkAt, Outcome.bind_eq_ok, Outcome.guardWords_eq_ok, exists_const,
    boundedCheck_eq_ok_iff]

/-- A strict verdict is also the one on the way. -/
lemma valueAt_of_checkAt (h : c.checkAt boxes = .ok b) : c.valueAt boxes = .ok (some b) := by
  obtain ⟨read, -, fits, decided⟩ := checkAt_eq_ok_iff.1 h
  exact Outcome.bind_eq_ok.2
    ⟨(), Outcome.guardWords_eq_ok.2 read, Outcome.within_eq_ok.2 ⟨fits, decided⟩⟩

/-- The strict verdict is what the values at hand decide. -/
lemma value?_of_checkAt (h : c.checkAt boxes = .ok b) :
    c.value? (Assignment.ofBoxes boxes) = some b :=
  value?_of_valueAt (valueAt_of_checkAt h)

end boxes

/-- The strict evaluation of a constraint without conditions of the user fails exactly if a variable
has no value, and then names such a variable; whenever more values leave none missing it has a
verdict, which is the one that a partial evaluation on fewer values had come to, if it had. -/
theorem check_settles (plain : c.conditions = []) (ρ : Assignment) :
    ((∃ e, c.check ρ = .error e) ↔ ∃ v ∈ c.variableList, ρ v = none) ∧
    (∀ e, c.check ρ = .error e →
      ∃ v ∈ c.variableList, ρ v = none ∧ e = .missingVariable c.describe v.text) ∧
    ∀ σ : Assignment, σ.Extends ρ → σ.Knows c.variableList →
      ∃ b, c.check σ = .ok b ∧ ∀ b', c.value? ρ = some b' → b' = b := by
  have lawful := isLawful_of_plain plain
  have failure : ∀ e, c.check ρ = .error e →
      ∃ v ∈ c.variableList, ρ v = none ∧ e = .missingVariable c.describe v.text := by
    intro e failed
    obtain known | missing := ρ.knows_or_missing c.variableList
    · obtain ⟨b, ok⟩ := exists_check lawful known
      rw [ok] at failed
      cases failed
    · obtain ⟨v, hv, unknown, eq⟩ := strictValue_of_missing missing
      rw [check, eq] at failed
      exact ⟨v, hv, unknown, (Except.error.inj failed).symm⟩
  refine ⟨⟨fun ⟨e, failed⟩ => ?_, fun missing => ?_⟩, failure, fun σ more known => ?_⟩
  · obtain ⟨v, hv, unknown, -⟩ := failure e failed
    exact ⟨v, hv, unknown⟩
  · obtain ⟨v, -, -, eq⟩ := strictValue_of_missing missing
    exact ⟨_, eq⟩
  · obtain ⟨b, ok⟩ := exists_check lawful known
    refine ⟨b, ok, fun b' partly => ?_⟩
    have final := c.value?_mono more lawful partly
    rw [(check_eq_ok_iff known).1 ok] at final
    exact (Option.some.inj final).symm

/-- A disjunction that is decided by one of its two variables, with values for that variable only
and then for both. -/
theorem check_settles_narrow :
    let width : Variable := ⟨Name.own, .width⟩
    let height : Variable := ⟨Name.own, .height⟩
    let narrow : Constraint :=
      disj [formula (.compare (.var width) .lt (.number 3)),
        not (formula (.compare (.var height) .gt (.var width)))]
    let ρ : Assignment := fun v => if v = width then some 2 else none
    let σ : Assignment := fun v => if v = width then some 2 else if v = height then some 5 else none
    narrow.conditions = [] ∧ narrow.value? ρ = some true ∧ (∃ e, narrow.check ρ = .error e) ∧
      σ.Extends ρ ∧ σ.Knows narrow.variableList ∧ narrow.check σ = .ok true := by
  intro width height narrow ρ σ
  have plain : narrow.conditions = [] := rfl
  have partly : narrow.value? ρ = some true := by decide
  have more : σ.Extends ρ := by
    intro v n hv
    simp only [ρ, Option.ite_none_right_eq_some] at hv
    simp only [σ, if_pos hv.1, hv.2]
  have listed : narrow.variableList = [width, height] := by decide +kernel
  have known : σ.Knows narrow.variableList := by
    rw [listed]
    exact List.forall_mem_cons.2 ⟨⟨2, rfl⟩, List.forall_mem_singleton.2 ⟨5, rfl⟩⟩
  obtain ⟨fails, -, settles⟩ := check_settles plain ρ
  obtain ⟨b, ok, same⟩ := settles σ more known
  refine ⟨plain, partly, fails.2 ⟨height, ?_, rfl⟩, more, known, ?_⟩
  · rw [listed]
    exact List.mem_cons_of_mem width (List.mem_singleton_self height)
  · rw [ok, same true partly]

end Constraint

end SpatialGrammar
