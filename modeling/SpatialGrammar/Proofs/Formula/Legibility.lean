import SpatialGrammar.Proofs.Constraint.Namespace
import SpatialGrammar.Proofs.Formula.Scanning
import SpatialGrammar.Proofs.Formula.Syntax
import SpatialGrammar.Proofs.Plane.Notation

/-!
# Formulas that can be written down

Not every formula has a written form that can be read: its numbers may be negative and its
variables may have any name. Main statements: `Variable.isLegible_of_ofText`, a variable that has
been read is read back from its written form, and `Formula.Derives.isLegible`, the tokens of a text
spell only formulas that can be written down.
-/

namespace SpatialGrammar

open Token

/-- A word stands for the own box, for the parent or for itself. -/
lemma Name.canonical_eq (name : Name) :
    name.canonical = own ∨ name.canonical = parent ∨ name.canonical = name := by
  unfold canonical
  split
  · exact .inl rfl
  · split
    · exact .inr (.inl rfl)
    · exact .inr (.inr rfl)

namespace Attribute

variable {a : Attribute} {text : String}

lemma ofText?_name (a : Attribute) : ofText? a.name = some a := by
  cases a <;> decide +kernel

/-- No name of an attribute has an underscore. -/
lemma underscore_not_mem (h : ofText? text = some a) : '_' ∉ text.toList := by
  intro mem
  have kept : '_' ∈ (Text.lower text).toList := by
    rw [Text.lower, String.toList_ofList]
    exact List.mem_map.2 ⟨'_', mem, by decide⟩
  unfold ofText? at h
  split at h
  case h_15 => cases h
  all_goals
    rw [‹Text.lower text = _›] at kept
    exact absurd kept (by decide)

lemma continuesWord_name (a : Attribute) : ∀ c ∈ a.name.toList, continuesWord c = true := by
  have all : a.name.toList.all continuesWord = true := by cases a <;> decide +kernel
  exact List.all_eq_true.1 all

end Attribute

namespace Variable

/-- The written form of a variable is a word which names the variable. -/
structure IsLegible (v : Variable) : Prop where
  word : IsWord v.text.toList
  named : ofText v.text = .ok v

variable {name : Name} {text : String} {a : Attribute} {v : Variable}

lemma isLegible_own (a : Attribute) : IsLegible ⟨Name.own, a⟩ := by
  cases a <;> constructor <;> decide +kernel

lemma isLegible_parent (a : Attribute) : IsLegible ⟨Name.parent, a⟩ := by
  cases a <;> constructor <;> decide +kernel

/-- The written form of an attribute behind the name of a component. -/
lemma isLegible_component (word : IsWord name.toList) (itself : name.canonical = name)
    (ne : name ≠ Name.parent) : IsLegible ⟨name, a⟩ := by
  have other : name ≠ Name.own := by
    rintro rfl
    exact word
  have form : text ⟨name, a⟩ = name ++ "_" ++ a.name := by
    rw [Variable.text, if_neg other, if_neg ne]
  have chars : (text ⟨name, a⟩).toList = name.toList ++ '_' :: a.name.toList := by
    rw [form, String.toList_append, String.toList_append, List.append_assoc]
    rfl
  constructor
  · rw [chars]
    exact word.append (List.forall_mem_cons.2 ⟨by decide, a.continuesWord_name⟩)
  · have whole : Attribute.ofText? (text ⟨name, a⟩) = none := by
      rw [Option.eq_none_iff_forall_ne_some]
      intro b named
      exact Attribute.underscore_not_mem named (by simp [chars])
    have cut : Text.cutLast? (· == '_') (text ⟨name, a⟩).toList =
        some (name.toList, a.name.toList) := by
      have apart := Attribute.underscore_not_mem a.ofText?_name
      refine Text.cutLast?_eq_some.2 ⟨'_', chars, rfl, fun d mem => ?_⟩
      rw [beq_eq_false_iff_ne]
      rintro rfl
      exact apart mem
    have filled : name.toList.isEmpty = false := by
      cases eq : name.toList with
      | nil => exact (eq ▸ word).elim
      | cons => rfl
    simp only [ofText, whole, cut, String.ofList_toList, Attribute.ofText?_name, filled, of,
      Bool.false_eq_true, if_false, itself]

lemma isLegible_of_isWord (word : IsWord name.toList) : IsLegible (of name a) := by
  unfold of
  obtain own | parent | itself := name.canonical_eq
  · exact own ▸ isLegible_own a
  · exact parent ▸ isLegible_parent a
  · rw [itself]
    by_cases parent : name = Name.parent
    · exact parent ▸ isLegible_parent a
    · exact isLegible_component word itself parent

/-- A variable that a word names can be written down. -/
theorem isLegible_of_ofText (word : IsWord text.toList) (h : ofText text = .ok v) :
    v.IsLegible := by
  unfold ofText at h
  split at h
  next a _ =>
    cases h
    exact isLegible_own a
  next =>
    split at h
    next => cases h
    next front back cut =>
      split at h
      next => cases h
      next a _ =>
        cases h
        obtain ⟨c, eq, -, -⟩ := Text.cutLast?_eq_some.1 cut
        cases front with
        | nil => exact isLegible_parent a
        | cons d front =>
          have named : IsWord (d :: front) := (eq ▸ word).front (List.cons_ne_nil d front)
          rw [← String.toList_ofList (l := d :: front)] at named
          exact isLegible_of_isWord named

end Variable

namespace Term

/-- The numbers of a term have a written form without a sign, and its variables can be written
down. -/
def IsLegible : Term → Prop
  | number n => 0 ≤ n ∧ Word.holds n = true
  | var v => v.IsLegible
  | add a b | sub a b | mul a b => a.IsLegible ∧ b.IsLegible
  | neg a => a.IsLegible

/-- A term that legible tokens spell can be written down. -/
lemma Derives.isLegible {level : Level} {ts : List Token} {a : Term} (h : Derives level ts a)
    (legible : ∀ t ∈ ts, t.IsLegible) : a.IsLegible := by
  induction h with
  | number n => exact legible (.number n) List.mem_cons_self
  | @var word v named =>
    exact Variable.isLegible_of_ofText (legible (.word word) List.mem_cons_self) named
  | group _ ih =>
    exact ih (List.forall_mem_append.1 (List.forall_mem_cons.1 legible).2).1
  | neg _ ih => exact ih (List.forall_mem_cons.1 legible).2
  | unary _ ih | product _ ih => exact ih legible
  | mul _ _ iha ihb | add _ _ iha ihb | sub _ _ iha ihb =>
    obtain ⟨left, right⟩ := List.forall_mem_append.1 legible
    exact ⟨iha left, ihb (List.forall_mem_cons.1 right).2⟩

end Term

namespace Formula

/-- The terms of a formula can be written down, its intervals can be read back, and each of its
lists has several members. -/
inductive IsLegible : Formula → Prop where
  | const (b : Bool) : IsLegible (const b)
  | compare {a b : Term} (c : Comparison) (left : a.IsLegible) (right : b.IsLegible) :
      IsLegible (compare a c b)
  | within {a : Term} {range : Interval} (term : a.IsLegible)
      (read : Interval.ofText range.text = .ok range) : IsLegible (within a range)
  | conj {a b : Formula} {more : List Formula} (each : ∀ x ∈ a :: b :: more, IsLegible x) :
      IsLegible (conj (a :: b :: more))
  | disj {a b : Formula} {more : List Formula} (each : ∀ x ∈ a :: b :: more, IsLegible x) :
      IsLegible (disj (a :: b :: more))
  | xor {a b : Formula} (left : IsLegible a) (right : IsLegible b) : IsLegible (xor a b)
  | not {a : Formula} (inner : IsLegible a) : IsLegible (not a)

variable {level : Level} {ts : List Token} {a : Term} {b : Formula} {items : List Formula}
variable {members : List Member}

lemma isLegible_flat {make : List Formula → Formula} (ne : items ≠ [])
    (each : ∀ x ∈ items, x.IsLegible)
    (several : ∀ {a b more}, (∀ x ∈ a :: b :: more, IsLegible x) →
      IsLegible (make (a :: b :: more))) : IsLegible (flat make items) := by
  obtain _ | ⟨only, _ | ⟨second, more⟩⟩ := items
  · exact absurd rfl ne
  · exact each only List.mem_cons_self
  · exact several each

/-- The comparisons that legible tokens spell behind a term can be written down. -/
lemma Links.isLegible (h : Links a ts items) (first : a.IsLegible)
    (legible : ∀ t ∈ ts, t.IsLegible) : items ≠ [] ∧ ∀ x ∈ items, x.IsLegible := by
  induction h with
  | last _ right =>
    have second := right.isLegible (List.forall_mem_cons.1 legible).2
    exact ⟨List.cons_ne_nil _ _, List.forall_mem_singleton.2 (.compare _ first second)⟩
  | more _ right _ ih =>
    obtain ⟨left, others⟩ := List.forall_mem_append.1 (List.forall_mem_cons.1 legible).2
    have second := right.isLegible left
    have each := (ih second others).2
    exact ⟨List.cons_ne_nil _ _, List.forall_mem_cons.2 ⟨.compare _ first second, each⟩⟩

lemma legible_member (legible : ∀ t ∈ Member.spelled members, t.IsLegible) :
    ∀ m ∈ members, ∀ t ∈ m.tokens, t.IsLegible := by
  intro m mem t inside
  exact legible t (List.mem_flatMap.2 ⟨m, mem, List.mem_cons_of_mem _ inside⟩)

/-- A formula that legible tokens spell can be written down. -/
theorem Derives.isLegible (h : Derives level ts b) (legible : ∀ t ∈ ts, t.IsLegible) :
    b.IsLegible := by
  induction h with
  | yes => exact .const true
  | no => exact .const false
  | group _ ih => exact ih (List.forall_mem_append.1 (List.forall_mem_cons.1 legible).2).1
  | chain first links =>
    obtain ⟨left, right⟩ := List.forall_mem_append.1 legible
    obtain ⟨ne, each⟩ := links.isLegible (first.isLegible left) right
    exact isLegible_flat ne each .conj
  | within first read =>
    have fits := Interval.holds_of_ofText read
    exact .within (first.isLegible (List.forall_mem_append.1 legible).1) (Interval.ofText_text fits)
  | atom _ ih | conjunction _ ih => exact ih legible
  | not _ _ ih => exact .not (ih (List.forall_mem_cons.1 legible).2)
  | conj _ _ _ ih ihs =>
    obtain ⟨first, others⟩ := List.forall_mem_append.1 legible
    refine isLegible_flat (List.cons_ne_nil _ _) (List.forall_mem_cons.2 ⟨ih first, ?_⟩) .conj
    exact List.forall_mem_map.2 fun m mem => ihs m mem (legible_member others m mem)
  | xor _ _ _ iha ihb =>
    obtain ⟨left, right⟩ := List.forall_mem_append.1 legible
    exact .xor (iha left) (ihb (List.forall_mem_cons.1 right).2)
  | disj _ _ _ ih ihs =>
    obtain ⟨first, others⟩ := List.forall_mem_append.1 legible
    refine isLegible_flat (List.cons_ne_nil _ _) (List.forall_mem_cons.2 ⟨ih first, ?_⟩) .disj
    exact List.forall_mem_map.2 fun m mem => ihs m mem (legible_member others m mem)

end Formula

end SpatialGrammar
