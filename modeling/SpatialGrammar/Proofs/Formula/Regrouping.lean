import Mathlib.Data.List.Basic
import Mathlib.Data.Option.NAry
import SpatialGrammar.Constraint.Formula
import SpatialGrammar.Proofs.Constraint.Induction

/-!
# Formulas that group to the left

The written form of a term leaves out the parentheses around products and negations. What is read
back from it is the term `Term.regrouped`, in which products group to the left and a negation
reaches no further than the next factor. Main statements: regrouping a formula keeps its value
(`Formula.value?_regrouped`), its variables (`Formula.mentions_regrouped`) and its written form
(`Formula.text_regrouped`).
-/

namespace SpatialGrammar

namespace Term

/-- The term that is read when the written form of a term comes after something that makes a
product of the factor which follows it. -/
def regroup (before : Term → Term) : Term → Term
  | number n => before (number n)
  | var v => before (var v)
  | add a b => before (add (regroup id a) (regroup id b))
  | sub a b => before (sub (regroup id a) (regroup id b))
  | mul a b => regroup (mul (regroup before a)) b
  | neg a => regroup (fun x => before (neg x)) a

/-- The term that is read from the written form of a term. -/
def regrouped (a : Term) : Term := regroup id a

variable {ρ : Assignment} {before : Term → Term}

lemma value?_mul (a b : Term) :
    (mul a b).value? ρ = Option.map₂ (· * ·) (a.value? ρ) (b.value? ρ) := by
  rw [value?]
  cases a.value? ρ <;> cases b.value? ρ <;> rfl

lemma value?_neg (a : Term) :
    (neg a).value? ρ = Option.map₂ (· * ·) (some (-1)) (a.value? ρ) := by
  rw [value?]
  cases a.value? ρ <;> simp [Option.map₂]

lemma map₂_one (x : Option Int) : Option.map₂ (· * ·) (some 1) x = x := by
  cases x <;> simp [Option.map₂]

/-- What comes before a term multiplies its value. -/
lemma value?_regroup {c : Option Int} (a : Term)
    (scales : ∀ x, (before x).value? ρ = Option.map₂ (· * ·) c (x.value? ρ)) :
    (regroup before a).value? ρ = Option.map₂ (· * ·) c (a.value? ρ) := by
  induction a generalizing before c with
  | number | var => exact scales _
  | add a b iha ihb | sub a b iha ihb =>
    have left : (regroup id a).value? ρ = a.value? ρ :=
      (iha fun _ => (map₂_one _).symm).trans (map₂_one _)
    have right : (regroup id b).value? ρ = b.value? ρ :=
      (ihb fun _ => (map₂_one _).symm).trans (map₂_one _)
    rw [regroup, scales, value?, left, right, value?]
  | mul a b iha ihb =>
    rw [regroup, value?_mul, ← Option.map₂_assoc Int.mul_assoc, ← iha scales]
    exact ihb fun x => value?_mul _ x
  | neg a ih =>
    rw [regroup, value?_neg, ← Option.map₂_assoc Int.mul_assoc]
    refine ih fun x => ?_
    rw [scales, value?_neg, Option.map₂_assoc Int.mul_assoc]

theorem value?_regrouped (a : Term) : a.regrouped.value? ρ = a.value? ρ :=
  (value?_regroup a fun _ => (map₂_one _).symm).trans (map₂_one _)

lemma mentions_regroup {front : List Variable} (a : Term)
    (names : ∀ x, (before x).mentions = front ++ x.mentions) :
    (regroup before a).mentions = front ++ a.mentions := by
  induction a generalizing before front with
  | number | var => exact names _
  | add a b iha ihb | sub a b iha ihb =>
    have left : (regroup id a).mentions = a.mentions := iha fun _ => (List.nil_append _).symm
    have right : (regroup id b).mentions = b.mentions := ihb fun _ => (List.nil_append _).symm
    rw [regroup, names, mentions, left, right, mentions]
  | mul a b iha ihb =>
    rw [regroup, mentions, ← List.append_assoc, ← iha names]
    exact ihb fun x => by rw [mentions]
  | neg a ih => exact ih fun x => names (neg x)

theorem mentions_regrouped (a : Term) : a.regrouped.mentions = a.mentions :=
  mentions_regroup a fun _ => (List.nil_append _).symm

lemma text_regroup {front : String} (a : Term) (writes : ∀ x, (before x).text = front ++ x.text) :
    (regroup before a).text = front ++ a.text := by
  induction a generalizing before front with
  | number | var => exact writes _
  | add a b iha ihb | sub a b iha ihb =>
    have left : (regroup id a).text = a.text :=
      (iha fun _ => String.empty_append.symm).trans String.empty_append
    have right : (regroup id b).text = b.text :=
      (ihb fun _ => String.empty_append.symm).trans String.empty_append
    rw [regroup, writes, text, left, right, text]
  | mul a b iha ihb =>
    rw [regroup, text, ← String.append_assoc, ← String.append_assoc, ← iha writes]
    exact ihb fun x => by rw [text]
  | neg a ih =>
    rw [regroup, text, ← String.append_assoc]
    refine ih fun x => ?_
    rw [writes, text, String.append_assoc]

theorem text_regrouped (a : Term) : a.regrouped.text = a.text :=
  (text_regroup a fun _ => String.empty_append.symm).trans String.empty_append

end Term

namespace Formula

mutual

/-- The formula that is read from the written form of a formula. -/
def regrouped : Formula → Formula
  | const b => const b
  | compare a c b => compare a.regrouped c b.regrouped
  | within a range => within a.regrouped range
  | conj items => conj (regroupedOf items)
  | disj items => disj (regroupedOf items)
  | xor a b => xor a.regrouped b.regrouped
  | not a => not a.regrouped

/-- The formulas that are read from the written forms of formulas. -/
def regroupedOf : List Formula → List Formula
  | [] => []
  | a :: rest => a.regrouped :: regroupedOf rest

end

lemma regroupedOf_eq_map (items : List Formula) : regroupedOf items = items.map regrouped := by
  induction items with
  | nil => rfl
  | cons a rest ih => rw [regroupedOf, ih, List.map_cons]

variable {ρ : Assignment}

theorem value?_regrouped (a : Formula) : a.regrouped.value? ρ = a.value? ρ := by
  induction a using Formula.induction with
  | const => rfl
  | compare a c b => simp only [regrouped, value?, Term.value?_regrouped]
  | within a range => simp only [regrouped, value?, Term.value?_regrouped]
  | conj items ih | disj items ih =>
    have each : (items.map regrouped).map (value? ρ) = items.map (value? ρ) := by
      rw [List.map_map]
      exact List.map_congr_left ih
    rw [regrouped, value?, value?, regroupedOf_eq_map, values?_eq_map, values?_eq_map, each]
  | xor a b iha ihb => rw [regrouped, value?, value?, iha, ihb]
  | not a ih => rw [regrouped, value?, value?, ih]

theorem mentions_regrouped (a : Formula) : a.regrouped.mentions = a.mentions := by
  induction a using Formula.induction with
  | const => rfl
  | compare a c b => simp only [regrouped, mentions, Term.mentions_regrouped]
  | within a range => simp only [regrouped, mentions, Term.mentions_regrouped]
  | conj items ih | disj items ih =>
    have each : (items.map regrouped).flatMap mentions = items.flatMap mentions := by
      rw [List.flatMap_map]
      exact List.flatMap_congr ih
    rw [regrouped, mentions, mentions, regroupedOf_eq_map, mentionsOf_eq_flatMap,
      mentionsOf_eq_flatMap, each]
  | xor a b iha ihb => rw [regrouped, mentions, mentions, iha, ihb]
  | not a ih => rw [regrouped, mentions, mentions, ih]

lemma joined_map {word : String} {items : List Formula} {f : Formula → Formula}
    (same : ∀ a ∈ items, (f a).text = a.text) : joined word (items.map f) = joined word items := by
  induction items with
  | nil => rfl
  | cons a rest ih =>
    rw [List.forall_mem_cons] at same
    cases rest with
    | nil => exact same.1
    | cons b rest => exact congrArg₂ (fun x y => x ++ word ++ y) same.1 (ih same.2)

theorem text_regrouped (a : Formula) : a.regrouped.text = a.text := by
  induction a using Formula.induction with
  | const => rfl
  | compare a c b => simp only [regrouped, text, Term.text_regrouped]
  | within a range => simp only [regrouped, text, Term.text_regrouped]
  | conj items ih | disj items ih => rw [regrouped, text, text, regroupedOf_eq_map, joined_map ih]
  | xor a b iha ihb => rw [regrouped, text, text, iha, ihb]
  | not a ih => rw [regrouped, text, text, ih]

end Formula

end SpatialGrammar
