import Mathlib.Data.List.Basic
import SpatialGrammar.Constraint.Formula.Reader

/-!
# The grammar of formulas

Which token lists spell which terms and formulas, as a relation: `Term.Derives` and
`Formula.Derives` have one rule for each way in which a text can be put together. Sums, products and
exclusive disjunctions group to the left, conjunctions and disjunctions are lists. Main statements:
`Balanced` for both relations, parentheses are closed in the order in which they are opened, and
`Term.Derives.continuesTerm_afterGroup`, what follows the first group of a term that goes on.
-/

namespace SpatialGrammar

namespace Token

/-- What follows the parenthesis that closes the group which the tokens go on with; as many groups
as `depth` says have been opened within it. -/
def afterGroup : Nat → List Token → List Token
  | _, [] => []
  | depth, .sign .openParen :: ts => afterGroup (depth + 1) ts
  | 0, .sign .closeParen :: ts => ts
  | depth + 1, .sign .closeParen :: ts => afterGroup depth ts
  | depth, _ :: ts => afterGroup depth ts

/-- Tokens close the parentheses that they open, and no others. -/
def Balanced (ts : List Token) : Prop :=
  ∀ depth rest, afterGroup depth (ts ++ rest) = afterGroup depth rest

variable {t : Token} {ts us rest : List Token}

lemma balanced_nil : Balanced [] := fun _ _ => rfl

lemma Balanced.append (hts : Balanced ts) (hus : Balanced us) : Balanced (ts ++ us) := by
  intro depth rest
  rw [List.append_assoc, hts, hus]

lemma Balanced.cons (hopen : t ≠ .sign .openParen) (hclose : t ≠ .sign .closeParen)
    (h : Balanced ts) : Balanced (t :: ts) := by
  intro depth rest
  rw [List.cons_append, afterGroup.eq_5 _ _ _ hopen (fun _ => hclose) (fun _ _ => hclose)]
  exact h depth rest

lemma afterGroup_of_balanced (h : Balanced ts) :
    afterGroup 0 (ts ++ .sign .closeParen :: rest) = rest := h 0 _

lemma Balanced.group (h : Balanced ts) :
    Balanced (.sign .openParen :: (ts ++ [.sign .closeParen])) := by
  intro depth rest
  rw [List.cons_append, List.append_assoc, afterGroup, h]
  rfl

end Token

open Token

namespace Term

/-- How tightly the outermost operation of a term binds. -/
inductive Level where
  | sum
  | product
  | unary

/-- The tokens spell the term, on a level of the grammar. -/
inductive Derives : Level → List Token → Term → Prop where
  | number (n : Int) : Derives .unary [.number n] (number n)
  | var {word : String} {v : Variable} (h : Variable.ofText word = .ok v) :
      Derives .unary [.word word] (var v)
  | group {ts : List Token} {a : Term} (inner : Derives .sum ts a) :
      Derives .unary (.sign .openParen :: (ts ++ [.sign .closeParen])) a
  | neg {ts : List Token} {a : Term} (inner : Derives .unary ts a) :
      Derives .unary (.sign .minus :: ts) (neg a)
  | unary {ts : List Token} {a : Term} (only : Derives .unary ts a) : Derives .product ts a
  | mul {ts us : List Token} {a b : Term} (left : Derives .product ts a)
      (right : Derives .unary us b) : Derives .product (ts ++ .sign .times :: us) (mul a b)
  | product {ts : List Token} {a : Term} (only : Derives .product ts a) : Derives .sum ts a
  | add {ts us : List Token} {a b : Term} (left : Derives .sum ts a)
      (right : Derives .product us b) : Derives .sum (ts ++ .sign .plus :: us) (add a b)
  | sub {ts us : List Token} {a b : Term} (left : Derives .sum ts a)
      (right : Derives .product us b) : Derives .sum (ts ++ .sign .minus :: us) (sub a b)

variable {level : Level} {ts rest : List Token} {a : Term}

/-- A token that can stand in front of a term. -/
inductive Opens : Token → Prop where
  | number (n : Int) : Opens (.number n)
  | word {word : String} {v : Variable} (h : Variable.ofText word = .ok v) : Opens (.word word)
  | openParen : Opens (.sign .openParen)
  | minus : Opens (.sign .minus)

lemma Derives.exists_opens (h : Derives level ts a) : ∃ t more, ts = t :: more ∧ Opens t := by
  induction h with
  | number n => exact ⟨_, _, rfl, .number n⟩
  | var h => exact ⟨_, _, rfl, .word h⟩
  | group => exact ⟨_, _, rfl, .openParen⟩
  | neg => exact ⟨_, _, rfl, .minus⟩
  | unary _ ih | product _ ih => exact ih
  | mul _ _ ih _ | add _ _ ih _ | sub _ _ ih _ =>
    obtain ⟨t, more, rfl, opens⟩ := ih
    exact ⟨t, _, rfl, opens⟩

lemma Derives.length_pos (h : Derives level ts a) : 0 < ts.length := by
  obtain ⟨t, more, rfl, -⟩ := h.exists_opens
  simp

lemma Derives.balanced (h : Derives level ts a) : Balanced ts := by
  induction h with
  | number | var => exact balanced_nil.cons (by simp) (by simp)
  | group _ ih => exact ih.group
  | neg _ ih => exact ih.cons (by simp) (by simp)
  | unary _ ih | product _ ih => exact ih
  | mul _ _ ihl ihr | add _ _ ihl ihr | sub _ _ ihl ihr =>
    exact ihl.append (ihr.cons (by simp) (by simp))

/-- A term goes on after the group that it begins with, or what follows the term goes on. -/
lemma Derives.continuesTerm_afterGroup (h : Derives level (.sign .openParen :: ts) a)
    (goesOn : Formula.continuesTerm rest = true) :
    Formula.continuesTerm (afterGroup 0 (ts ++ rest)) = true := by
  generalize eq : Token.sign .openParen :: ts = front at h
  induction h generalizing ts rest with
  | number | var | neg => simp at eq
  | group inner =>
    obtain rfl := List.tail_eq_of_cons_eq eq
    rw [List.append_assoc]
    exact (congrArg Formula.continuesTerm (afterGroup_of_balanced inner.balanced)).trans goesOn
  | unary _ ih | product _ ih => exact ih goesOn eq
  | mul left _ ih _ | add left _ ih _ | sub left _ ih _ =>
    obtain ⟨t, more, rfl, -⟩ := left.exists_opens
    rw [List.cons_append, List.cons.injEq] at eq
    obtain ⟨rfl, rfl⟩ := eq
    rw [List.append_assoc]
    exact ih rfl rfl

end Term

namespace Formula

/-- A connective of formulas. -/
inductive Connective where
  | or
  | xor
  | and
  | not

/-- The two spellings of a connective. -/
def Connective.spellings : Connective → List Token
  | or => [.word "or", .sign .orOr]
  | xor => [.word "xor", .sign .caret]
  | and => [.word "and", .sign .andAnd]
  | not => [.word "not", .sign .bang]

/-- A list of formulas as one formula: one formula stands for itself. -/
def flat (make : List Formula → Formula) : List Formula → Formula
  | [a] => a
  | items => make items

/-- A further member of a list of formulas, with the token in front of it. -/
structure Member where
  link : Token
  tokens : List Token
  tree : Formula

/-- The tokens of further members. -/
def Member.spelled (members : List Member) : List Token :=
  members.flatMap fun m => m.link :: m.tokens

/-- How tightly the outermost connective of a formula binds. -/
inductive Level where
  | disj
  | xor
  | conj
  | not
  | atom

/-- The tokens compare a term with a second one, the second with a third one and so on. -/
inductive Links : Term → List Token → List Formula → Prop where
  | last {a b : Term} {s : Sign} {c : Comparison} {ts : List Token}
      (sign : Comparison.ofSign? s = some c) (right : Term.Derives .sum ts b) :
      Links a (.sign s :: ts) [compare a c b]
  | more {a b : Term} {s : Sign} {c : Comparison} {ts us : List Token} {items : List Formula}
      (sign : Comparison.ofSign? s = some c) (right : Term.Derives .sum ts b)
      (rest : Links b us items) : Links a (.sign s :: (ts ++ us)) (compare a c b :: items)

/-- The tokens spell the formula, on a level of the grammar. -/
inductive Derives : Level → List Token → Formula → Prop where
  | yes : Derives .atom [.word "true"] (const true)
  | no : Derives .atom [.word "false"] (const false)
  | group {ts : List Token} {a : Formula} (inner : Derives .disj ts a) :
      Derives .atom (.sign .openParen :: (ts ++ [.sign .closeParen])) a
  | chain {ts us : List Token} {a : Term} {items : List Formula} (first : Term.Derives .sum ts a)
      (links : Links a us items) : Derives .atom (ts ++ us) (flat conj items)
  | within {ts : List Token} {a : Term} {text : String} {range : Interval}
      (first : Term.Derives .sum ts a) (read : Interval.ofText text = .ok range) :
      Derives .atom (ts ++ [.word "in", .bracket text]) (within a range)
  | atom {ts : List Token} {a : Formula} (only : Derives .atom ts a) : Derives .not ts a
  | not {t : Token} {ts : List Token} {a : Formula} (spelling : t ∈ Connective.not.spellings)
      (inner : Derives .not ts a) : Derives .not (t :: ts) (not a)
  | conj {ts : List Token} {a : Formula} {members : List Member} (first : Derives .not ts a)
      (spellings : ∀ m ∈ members, m.link ∈ Connective.and.spellings)
      (others : ∀ m ∈ members, Derives .not m.tokens m.tree) :
      Derives .conj (ts ++ Member.spelled members) (flat conj (a :: members.map (·.tree)))
  | conjunction {ts : List Token} {a : Formula} (only : Derives .conj ts a) : Derives .xor ts a
  | xor {t : Token} {ts us : List Token} {a b : Formula} (left : Derives .xor ts a)
      (spelling : t ∈ Connective.xor.spellings) (right : Derives .conj us b) :
      Derives .xor (ts ++ t :: us) (xor a b)
  | disj {ts : List Token} {a : Formula} {members : List Member} (first : Derives .xor ts a)
      (spellings : ∀ m ∈ members, m.link ∈ Connective.or.spellings)
      (others : ∀ m ∈ members, Derives .xor m.tokens m.tree) :
      Derives .disj (ts ++ Member.spelled members) (flat disj (a :: members.map (·.tree)))

variable {level : Level} {ts us rest : List Token} {t : Token} {a : Term} {items : List Formula}
variable {k : Connective} {b : Formula}

lemma ne_paren_of_spelling (h : t ∈ k.spellings) :
    t ≠ .sign .openParen ∧ t ≠ .sign .closeParen := by
  cases k <;> obtain rfl | rfl := List.mem_pair.1 h <;> simp

lemma ne_paren_of_ofSign? {s : Sign} {c : Comparison} (h : Comparison.ofSign? s = some c) :
    s ≠ .openParen ∧ s ≠ .closeParen := by
  constructor <;> rintro rfl <;> cases h

lemma Links.balanced (h : Links a us items) : Balanced us := by
  induction h with
  | last sign right =>
    obtain ⟨hopen, hclose⟩ := ne_paren_of_ofSign? sign
    exact right.balanced.cons (by simpa using hopen) (by simpa using hclose)
  | more sign right _ ih =>
    obtain ⟨hopen, hclose⟩ := ne_paren_of_ofSign? sign
    exact (right.balanced.append ih).cons (by simpa using hopen) (by simpa using hclose)

/-- What follows the first term of a chain is not what follows a formula. -/
lemma Links.continuesTerm (h : Links a us items) : continuesTerm (us ++ rest) = true := by
  cases h with
  | @last _ _ s _ _ sign | @more _ _ s _ _ _ _ sign =>
    cases s <;> first | rfl | cases sign

lemma balanced_spelled {members : List Member} (spellings : ∀ m ∈ members, m.link ∈ k.spellings)
    (others : ∀ m ∈ members, Balanced m.tokens) : Balanced (Member.spelled members) := by
  induction members with
  | nil => exact balanced_nil
  | cons m members ih =>
    rw [List.forall_mem_cons] at spellings others
    obtain ⟨hopen, hclose⟩ := ne_paren_of_spelling spellings.1
    rw [Member.spelled, List.flatMap_cons]
    exact (others.1.cons hopen hclose).append (ih spellings.2 others.2)

lemma Derives.balanced (h : Derives level ts b) : Balanced ts := by
  induction h with
  | yes | no => exact balanced_nil.cons (by simp) (by simp)
  | group _ ih => exact ih.group
  | chain first links => exact first.balanced.append links.balanced
  | within first =>
    exact first.balanced.append ((balanced_nil.cons (by simp) (by simp)).cons (by simp) (by simp))
  | atom _ ih | conjunction _ ih => exact ih
  | not spelling _ ih =>
    obtain ⟨hopen, hclose⟩ := ne_paren_of_spelling spelling
    exact ih.cons hopen hclose
  | conj _ spellings _ ih others | disj _ spellings _ ih others =>
    exact ih.append (balanced_spelled spellings others)
  | xor _ spelling _ ihl ihr =>
    obtain ⟨hopen, hclose⟩ := ne_paren_of_spelling spelling
    exact ihl.append (ihr.cons hopen hclose)

lemma Derives.conj_of_not (h : Derives .not ts b) : Derives .conj ts b := by
  have alone : Derives .conj (ts ++ Member.spelled []) (flat .conj [b]) :=
    h.conj (List.forall_mem_nil _) (List.forall_mem_nil _)
  rwa [show Member.spelled [] = [] from rfl, List.append_nil] at alone

lemma Derives.disj_of_xor (h : Derives .xor ts b) : Derives .disj ts b := by
  have alone : Derives .disj (ts ++ Member.spelled []) (flat .disj [b]) :=
    h.disj (List.forall_mem_nil _) (List.forall_mem_nil _)
  rwa [show Member.spelled [] = [] from rfl, List.append_nil] at alone

lemma Derives.xor_of_not (h : Derives .not ts b) : Derives .xor ts b := .conjunction h.conj_of_not

/-- No variable is called like a word that a formula may begin with. -/
lemma ofText_ne_ok_of_keyword {word : String} {v : Variable}
    (keyword : word ∈ ["true", "false", "not"]) : Variable.ofText word ≠ .ok v := by
  have none : ∀ w ∈ ["true", "false", "not"], (Variable.ofText w).toOption = none := by
    decide +kernel
  intro read
  have := none word keyword
  rw [read] at this
  cases this

end Formula

end SpatialGrammar
