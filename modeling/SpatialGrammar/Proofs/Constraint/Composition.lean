import SpatialGrammar.Proofs.Constraint.Evaluation

/-!
# Constraints that are put together step by step

When constraints are combined, members are added to a conjunction or a disjunction that is there,
and what is constantly true is left out. Whatever is read of the result is what would be read of a
connective with the given members. Main statements: `Joins.read_and`, `Joins.read_or` and
`Joins.read_all` for all readings at once, and `composed`, what the constraints mean that are put
together.
-/

namespace SpatialGrammar

namespace Constraint

variable {β : Type} {read : Constraint → β} {op : β → β → β} {unit : β}
variable {connective : List Constraint → Constraint} {a b c : Constraint}
variable {items more : List Constraint} {ρ : Assignment}

section reading

/-- What is read of a connective is what is read of its members, one after the other. -/
structure Joins (read : Constraint → β) (connective : List Constraint → Constraint)
    (op : β → β → β) (unit : β) : Prop where
  assoc : ∀ x y z, op (op x y) z = op x (op y z)
  unit_op : ∀ x, op unit x = x
  op_unit : ∀ x, op x unit = x
  nil : read (connective []) = unit
  cons : ∀ a items, read (connective (a :: items)) = op (read a) (read (connective items))

namespace Joins

lemma read_pair (h : Joins read connective op unit) :
    read (connective [a, b]) = op (read a) (read b) := by
  rw [h.cons, h.cons, h.nil, h.op_unit]

lemma read_append (h : Joins read connective op unit) :
    read (connective (items ++ more)) = op (read (connective items)) (read (connective more)) := by
  induction items with
  | nil => rw [List.nil_append, h.nil, h.unit_op]
  | cons a items ih => rw [List.cons_append, h.cons, h.cons, ih, h.assoc]

lemma read_add (h : Joins read connective op unit) :
    read (connective (items ++ [b])) = op (read (connective items)) (read b) := by
  rw [h.read_append, h.cons, h.nil, h.op_unit]

/-- The conjunction of two constraints reads like the one with just these members. -/
theorem read_and (h : Joins read conj op unit) (trivial : read (const true) = unit) :
    read (a.and b) = read (conj [a, b]) := by
  rw [h.read_pair]
  fun_cases Constraint.and a b with
  | case1 => rw [trivial, h.unit_op]
  | case2 => rw [trivial, h.op_unit]
  | case3 => exact h.read_append
  | case4 => exact h.read_add
  | case5 => exact h.read_pair

theorem read_or (h : Joins read disj op unit) : read (a.or b) = read (disj [a, b]) := by
  rw [h.read_pair]
  fun_cases Constraint.or a b with
  | case1 => exact h.read_add
  | case2 => exact h.read_pair

/-- The conjunction of some constraints reads like the one with just these members. -/
theorem read_all (h : Joins read conj op unit) (trivial : read (const true) = unit)
    (items : List Constraint) : read (all items) = read (conj items) := by
  -- the conjunction so far is what has been read so far
  have begun : ∀ c, read (items.foldl Constraint.and c) = op (read c) (read (conj items)) := by
    induction items with
    | nil => exact fun c => by rw [List.foldl_nil, h.nil, h.op_unit]
    | cons a items ih =>
      intro c
      rw [List.foldl_cons, ih, h.read_and trivial, h.read_pair, h.cons, h.assoc]
  rw [all, begun, trivial, h.unit_op]

end Joins

end reading

section readings

lemma joins_append {γ : Type} {read : Constraint → List γ} (nil : read (connective []) = [])
    (cons : ∀ a items, read (connective (a :: items)) = read a ++ read (connective items)) :
    Joins read connective (· ++ ·) [] where
  assoc := List.append_assoc
  unit_op := List.nil_append
  op_unit := List.append_nil
  nil
  cons

/-- What the evaluation of a constraint comes to: its truth value and the integers on the way. -/
def evaluation (ρ : Assignment) (c : Constraint) : Option Bool × List Int :=
  (c.value? ρ, c.workings ρ)

/-- What two evaluations come to in turn, the second of which is left out if the first one has a
value that decides their connection. -/
def inTurn (connection : List (Option Bool) → Option Bool) (decisive : Bool)
    (x y : Option Bool × List Int) : Option Bool × List Int :=
  (connection [x.1, y.1], if x.1 = some decisive then x.2 else x.2 ++ y.2)

/-- Evaluations join in turn if their truth values join, unless a value decides the connection. -/
lemma joins_evaluation {connection : List (Option Bool) → Option Bool} {decisive : Bool}
    (assoc : ∀ x y z, connection [connection [x, y], z] = connection [x, connection [y, z]])
    (neutral : ∀ x, connection [some !decisive, x] = x ∧ connection [x, some !decisive] = x)
    (decided : ∀ x y, connection [x, y] = some decisive ↔ x = some decisive ∨ y = some decisive)
    (nil : evaluation ρ (connective []) = (some !decisive, []))
    (cons : ∀ a items, evaluation ρ (connective (a :: items)) =
      inTurn connection decisive (evaluation ρ a) (evaluation ρ (connective items))) :
    Joins (evaluation ρ) connective (inTurn connection decisive) (some !decisive, []) where
  assoc x y z := by
    simp only [inTurn, assoc, decided, Prod.mk.injEq, true_and]
    -- what comes after a decisive value has no part in either side
    by_cases first : x.1 = some decisive
    · simp only [first, true_or, if_true]
    · by_cases second : y.1 = some decisive
      · simp only [first, second, false_or, if_true, if_false]
      · simp only [first, second, or_false, if_false, List.append_assoc]
  unit_op x := by
    rw [inTurn, (neutral x.1).1, if_neg (by simp), List.nil_append]
  op_unit x := by
    rw [inTurn, (neutral x.1).2, List.append_nil, ite_self]
  nil
  cons

lemma joins_evaluation_conj (ρ : Assignment) :
    Joins (evaluation ρ) conj (inTurn Kleene.all false) (some true, []) :=
  joins_evaluation Kleene.all_assoc (by decide) (fun _ _ => Kleene.all_pair_eq_some_false) rfl
    fun _ _ => Prod.ext (Kleene.all_cons _ _) rfl

lemma joins_evaluation_disj (ρ : Assignment) :
    Joins (evaluation ρ) disj (inTurn Kleene.any true) (some false, []) :=
  joins_evaluation Kleene.any_assoc (by decide) (fun _ _ => Kleene.any_pair_eq_some_true) rfl
    fun _ _ => Prod.ext (Kleene.any_cons _ _) rfl

lemma joins_mentions_conj : Joins mentions conj (· ++ ·) [] := joins_append rfl fun _ _ => rfl

lemma joins_mentions_disj : Joins mentions disj (· ++ ·) [] := joins_append rfl fun _ _ => rfl

lemma joins_placements : Joins placements conj (· ++ ·) [] := joins_append rfl fun _ _ => rfl

lemma joins_extents : Joins extents conj (· ++ ·) [] := joins_append rfl fun _ _ => rfl

end readings

section meaning

/-- A constraint means the conjunction of some constraints: it has the truth value of this, does not
leave the words unless one of them does, mentions the variables of all of them, and requires what
they require. -/
structure IsConjunctionOf (items : List Constraint) (c : Constraint) : Prop where
  value : ∀ ρ, c.value? ρ = Kleene.all (items.map (value? ρ))
  fits : ∀ ρ, (∀ a ∈ items, Word.holdsAll (a.workings ρ) = true) →
    Word.holdsAll (c.workings ρ) = true
  mentioned : ∀ v, v ∈ c.variableList ↔ ∃ a ∈ items, v ∈ a.variableList
  placements : c.placements = items.flatMap placements
  extents : c.extents = items.flatMap extents

/-- A constraint means the disjunction of some constraints. -/
structure IsDisjunctionOf (items : List Constraint) (c : Constraint) : Prop where
  value : ∀ ρ, c.value? ρ = Kleene.any (items.map (value? ρ))
  fits : ∀ ρ, (∀ a ∈ items, Word.holdsAll (a.workings ρ) = true) →
    Word.holdsAll (c.workings ρ) = true
  mentioned : ∀ v, v ∈ c.variableList ↔ ∃ a ∈ items, v ∈ a.variableList

lemma holdsAll_workingsUntil {stop : Bool}
    (fit : ∀ a ∈ items, Word.holdsAll (a.workings ρ) = true) :
    Word.holdsAll (workingsUntil ρ stop items) = true := by
  induction items with
  | nil => rfl
  | cons a items ih =>
    obtain ⟨first, rest⟩ := List.forall_mem_cons.1 fit
    rw [workingsUntil]
    split
    next => exact first
    next => rw [Word.holdsAll_append, first, ih rest, Bool.and_self]

lemma mem_variableList_of_mentions (h : c.mentions = mentionsOf items) {v : Variable} :
    v ∈ c.variableList ↔ ∃ a ∈ items, v ∈ a.variableList := by
  simp only [variableList, Variable.sorted, Distinct.mem_ofList, h, mentionsOf_eq_flatMap,
    List.mem_flatMap]

/-- What is read like a conjunction in every respect means it. -/
lemma isConjunctionOf_of_reads (same : ∀ {β : Type} {read : Constraint → β} {op : β → β → β}
    {unit : β}, Joins read conj op unit → read (const true) = unit → read c = read (conj items)) :
    IsConjunctionOf items c := by
  have evaluated (ρ : Assignment) : evaluation ρ c = evaluation ρ (conj items) :=
    same (joins_evaluation_conj ρ) rfl
  exact {
    value := fun ρ => (congrArg Prod.fst (evaluated ρ)).trans
      (congrArg Kleene.all (values?_eq_map ρ items))
    fits := fun ρ fit => by
      have worked : c.workings ρ = workingsUntil ρ false items := congrArg Prod.snd (evaluated ρ)
      exact worked ▸ holdsAll_workingsUntil fit
    mentioned := fun _ => mem_variableList_of_mentions (same joins_mentions_conj rfl)
    placements := (same joins_placements rfl).trans (placementsOf_eq_flatMap items)
    extents := (same joins_extents rfl).trans (extentsOf_eq_flatMap items) }

lemma isConjunctionOf_and (a b : Constraint) : IsConjunctionOf [a, b] (a.and b) :=
  isConjunctionOf_of_reads fun h trivial => h.read_and trivial

lemma isConjunctionOf_all (items : List Constraint) : IsConjunctionOf items (all items) :=
  isConjunctionOf_of_reads fun h trivial => h.read_all trivial items

lemma isDisjunctionOf_or (a b : Constraint) : IsDisjunctionOf [a, b] (a.or b) where
  value ρ := congrArg Prod.fst (joins_evaluation_disj ρ).read_or
  fits ρ fit := by
    have worked : (a.or b).workings ρ = workingsUntil ρ true [a, b] :=
      congrArg Prod.snd (joins_evaluation_disj ρ).read_or
    exact worked ▸ holdsAll_workingsUntil fit
  mentioned _ := mem_variableList_of_mentions joins_mentions_disj.read_or

/-- A constraint that is true makes true what it requires. -/
lemma value?_of_required {γ : Type} {parts : Constraint → List γ} {value : γ → Option Bool}
    (members : ∀ items, parts (conj items) = items.flatMap parts)
    (atomic : ∀ c, (∀ items, c ≠ conj items) → ∀ p ∈ parts c, value p = c.value? ρ)
    (holds : c.value? ρ = some true) : ∀ p ∈ parts c, value p = some true := by
  induction c using Constraint.induction with
  | conj items ih =>
    intro p mem
    rw [members, List.mem_flatMap] at mem
    obtain ⟨c, listed, mem⟩ := mem
    rw [value?, values?_eq_map, Kleene.all_eq_some_true] at holds
    exact ih c listed (holds _ (List.mem_map_of_mem listed)) p mem
  | const | formula | extent | placement | disj | xor | not | condition =>
    refine fun p mem => (atomic _ (fun items eq => ?_) p mem).trans holds
    cases eq

lemma value?_of_mem_placements {p : Placement} (holds : c.value? ρ = some true)
    (mem : p ∈ c.placements) : p.value? ρ = some true := by
  refine value?_of_required placementsOf_eq_flatMap (fun c ne p mem => ?_) holds p mem
  cases c with
  | placement q => exact List.mem_singleton.1 mem ▸ rfl
  | conj items => exact absurd rfl (ne items)
  | const | formula | extent | disj | xor | not | condition => cases mem

lemma value?_of_mem_extents {e : Extent} (holds : c.value? ρ = some true)
    (mem : e ∈ c.extents) : e.value? ρ = some true := by
  refine value?_of_required extentsOf_eq_flatMap (fun c ne e mem => ?_) holds e mem
  cases c with
  | extent q => exact List.mem_singleton.1 mem ▸ rfl
  | conj items => exact absurd rfl (ne items)
  | const | formula | placement | disj | xor | not | condition => cases mem

lemma holdsAll_workings_xor (left : Word.holdsAll (a.workings ρ) = true)
    (right : Word.holdsAll (b.workings ρ) = true) :
    Word.holdsAll ((xor a b).workings ρ) = true := by
  rw [workings]
  split
  next => exact left
  next => rw [Word.holdsAll_append, left, right, Bool.and_self]

/-- Constraints that are put together mean what their parts do, however they are represented. -/
theorem composed (a b : Constraint) (items : List Constraint) :
    IsConjunctionOf [a, b] (a.and b) ∧ IsConjunctionOf items (all items) ∧
      IsDisjunctionOf [a, b] (a.or b) ∧
      (∀ ρ, (xor a b).value? ρ = Kleene.xor (a.value? ρ) (b.value? ρ) ∧
        (Word.holdsAll (a.workings ρ) = true → Word.holdsAll (b.workings ρ) = true →
          Word.holdsAll ((xor a b).workings ρ) = true)) ∧
      (∀ v, v ∈ (xor a b).variableList ↔ v ∈ a.variableList ∨ v ∈ b.variableList) ∧
      (∀ ρ, (not a).value? ρ = Kleene.not (a.value? ρ) ∧ (not a).workings ρ = a.workings ρ) ∧
      ∀ ρ (c : Constraint), c.value? ρ = some true →
        (∀ p ∈ c.placements, p.value? ρ = some true) ∧ ∀ e ∈ c.extents, e.value? ρ = some true := by
  refine ⟨isConjunctionOf_and a b, isConjunctionOf_all items, isDisjunctionOf_or a b,
    fun ρ => ⟨rfl, holdsAll_workings_xor⟩, fun v => ?_, fun ρ => ⟨rfl, rfl⟩, fun ρ c holds => ?_⟩
  · simp only [variableList, Variable.sorted, Distinct.mem_ofList, mentions, List.mem_append]
  · exact ⟨fun p mem => value?_of_mem_placements holds mem,
      fun e mem => value?_of_mem_extents holds mem⟩

/-- A digit at the left edge of a row satisfies a placement and an extent that are put together. -/
theorem composed_left_digit :
    let left := Placement.ofSides { left := some (Interval.exact 0) } {} false
    let narrow := Extent.ofSizes (some (Interval.exact 1)) none
    let both := (conj [placement left]).and ((const true).and (extent narrow))
    let ρ := Assignment.ofBoxes fun name =>
      if name = Name.own then some (Box.unit 0 0)
      else if name = Name.parent then some ⟨0, 0, 3, 1⟩ else none
    both.value? ρ = some true ∧ left ∈ both.placements ∧ left.value? ρ = some true ∧
      narrow ∈ both.extents ∧ narrow.value? ρ = some true := by
  intro left narrow both ρ
  obtain ⟨conjunction, -, -, -, -, -, required⟩ :=
    composed (conj [placement left]) ((const true).and (extent narrow)) []
  have holds : both.value? ρ = some true := by
    rw [conjunction.value]
    decide
  have placed : left ∈ both.placements := by
    rw [conjunction.placements]
    exact List.mem_singleton_self left
  have limited : narrow ∈ both.extents := by
    rw [conjunction.extents]
    exact List.mem_singleton_self narrow
  obtain ⟨placements, extents⟩ := required ρ both holds
  exact ⟨holds, placed, placements left placed, limited, extents narrow limited⟩

end meaning

end Constraint

end SpatialGrammar
