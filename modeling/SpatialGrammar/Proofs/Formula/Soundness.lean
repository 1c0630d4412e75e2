import SpatialGrammar.Proofs.Formula.Syntax
import SpatialGrammar.Proofs.Outcome

/-!
# What is read is spelled by the tokens

Each reader takes up tokens from the front of a list. Main statements: `Term.soundAt` and
`Formula.soundAt`, with any budget the tokens that a reader takes up spell what it returns, and
`Formula.derives_of_ofTokens` for whole token lists.
-/

namespace SpatialGrammar

open Outcome Token

section

variable {β γ : Type} {t : Token} {front ts rest : List Token} {a c : β}
variable {read : List Token → Except SyntaxError (β × List Token)}
variable {readFrom : β → List Token → Except SyntaxError (β × List Token)}
variable {P Q : List Token → β → Prop}

/-- What is read is related to the tokens that it takes up. -/
def IsSound (read : List Token → Except SyntaxError (γ × List Token))
    (P : List Token → γ → Prop) : Prop :=
  ∀ ⦃ts rest a⦄, read ts = .ok (a, rest) → ∃ front, ts = front ++ rest ∧ P front a

/-- Reading on from something that is related to the tokens which it takes up makes something that
is related to these and the tokens after them. -/
def IsSoundFrom (readFrom : γ → List Token → Except SyntaxError (γ × List Token))
    (P : List Token → γ → Prop) : Prop :=
  ∀ ⦃front a⦄, P front a → IsSound (readFrom a) fun more b => P (front ++ more) b

/-- Nothing is read on. -/
lemma exists_of_stop (h : P front a) (stop : (.ok (a, ts) : Except SyntaxError _) = .ok (c, rest)) :
    ∃ more, ts = more ++ rest ∧ P (front ++ more) c := by
  cases stop
  exact ⟨[], rfl, by rwa [List.append_nil]⟩

/-- An operand is read, and then on from it. -/
lemma IsSound.bind (first : IsSound read P) (next : IsSoundFrom readFrom Q)
    (weaken : ∀ {ts a}, P ts a → Q ts a) :
    IsSound (fun ts => do let (a, ts) ← read ts; readFrom a ts) Q := by
  intro ts rest c h
  simp only [bind_eq_ok] at h
  obtain ⟨⟨a, us⟩, hread, h⟩ := h
  obtain ⟨front, rfl, spelled⟩ := first hread
  obtain ⟨more, rfl, all⟩ := next (weaken spelled) h
  exact ⟨front ++ more, (List.append_assoc ..).symm, all⟩

/-- A further operand is read after a token, and then on from the combination of both. -/
lemma IsSound.operand {make : β → β} (second : IsSound read P) (next : IsSoundFrom readFrom Q)
    (join : ∀ {us b}, P us b → Q (front ++ t :: us) (make b))
    (h : (do let (b, us) ← read ts; readFrom (make b) us) = .ok (c, rest)) :
    ∃ more, t :: ts = more ++ rest ∧ Q (front ++ more) c := by
  simp only [bind_eq_ok] at h
  obtain ⟨⟨b, us⟩, hread, h⟩ := h
  obtain ⟨right, rfl, spelled⟩ := second hread
  obtain ⟨more, rfl, all⟩ := next (join spelled) h
  refine ⟨t :: (right ++ more), ?_, ?_⟩
  · rw [List.cons_append, List.append_assoc]
  · rwa [List.append_assoc] at all

end

namespace Term

/-- With this budget, what is read of a term is what the tokens in front of it spell. -/
structure SoundAt (n : Nat) : Prop where
  sum : IsSound (readSum n) (Derives .sum)
  sumFrom : IsSoundFrom (readSumFrom n) (Derives .sum)
  product : IsSound (readProduct n) (Derives .product)
  productFrom : IsSoundFrom (readProductFrom n) (Derives .product)
  unary : IsSound (readUnary n) (Derives .unary)

variable {n : Nat} {front ts rest : List Token} {a b : Term}

lemma SoundAt.readSum_succ (ih : SoundAt n) : IsSound (readSum (n + 1)) (Derives .sum) := by
  simp only [IsSound, readSum]
  exact ih.product.bind ih.sumFrom .product

lemma SoundAt.readSumFrom_succ (ih : SoundAt n) :
    IsSoundFrom (readSumFrom (n + 1)) (Derives .sum) := by
  intro front a first ts rest b h
  -- The equations of the readers distinguish budgets as well: the budget is a successor here.
  unfold readSumFrom at h
  split at h <;> cases ‹n + 1 = _›
  · exact ih.product.operand ih.sumFrom first.add h
  · exact ih.product.operand ih.sumFrom first.sub h
  · exact exists_of_stop first h

lemma SoundAt.readProduct_succ (ih : SoundAt n) :
    IsSound (readProduct (n + 1)) (Derives .product) := by
  simp only [IsSound, readProduct]
  exact ih.unary.bind ih.productFrom .unary

lemma SoundAt.readProductFrom_succ (ih : SoundAt n) :
    IsSoundFrom (readProductFrom (n + 1)) (Derives .product) := by
  intro front a first ts rest b h
  unfold readProductFrom at h
  split at h <;> cases ‹n + 1 = _›
  · exact ih.unary.operand ih.productFrom first.mul h
  · exact exists_of_stop first h

lemma ofWord_eq_ok {word : String} (h : ofWord word = .ok a) :
    ∃ v, Variable.ofText word = .ok v ∧ a = var v := by
  unfold ofWord at h
  split at h
  next v read =>
    cases h
    exact ⟨v, read, rfl⟩
  all_goals cases h

lemma SoundAt.readUnary_succ (ih : SoundAt n) : IsSound (readUnary (n + 1)) (Derives .unary) := by
  intro ts rest a h
  unfold readUnary at h
  split at h <;> cases ‹n + 1 = _›
  · simp only [bind_eq_ok, pure_eq_ok] at h
    obtain ⟨⟨b, us⟩, read, h⟩ := h
    cases h
    obtain ⟨front, rfl, inner⟩ := ih.unary read
    exact ⟨_, rfl, inner.neg⟩
  · simp only [bind_eq_ok] at h
    obtain ⟨⟨b, us⟩, read, h⟩ := h
    obtain ⟨front, rfl, inner⟩ := ih.sum read
    split at h
    next eq =>
      cases eq
      cases h
      exact ⟨_, by simp, inner.group⟩
    next => cases h
  · cases h
    exact ⟨_, rfl, .number _⟩
  · simp only [bind_eq_ok, pure_eq_ok] at h
    obtain ⟨b, read, h⟩ := h
    cases h
    obtain ⟨v, word, rfl⟩ := ofWord_eq_ok read
    exact ⟨[_], rfl, .var word⟩
  · cases h

theorem soundAt (n : Nat) : SoundAt n := by
  induction n with
  | zero =>
    constructor
    case sumFrom | productFrom => intro _ _ _ _ _ _ h; cases h
    all_goals intro _ _ _ h; cases h
  | succ n ih =>
    exact ⟨ih.readSum_succ, ih.readSumFrom_succ, ih.readProduct_succ, ih.readProductFrom_succ,
      ih.readUnary_succ⟩

lemma isSound_read : IsSound read (Derives .sum) := fun _ _ _ h => (soundAt _).sum h

end Term

namespace Formula

variable {n : Nat} {k : Connective} {level : Level} {t : Token} {front ts us rest : List Token}
variable {a : Term} {b : Formula} {items : List Formula}

lemma read?_eq_some {c : Comparison} (h : Comparison.read? ts = some (c, us)) :
    ∃ s, ts = .sign s :: us ∧ Comparison.ofSign? s = some c := by
  unfold Comparison.read? at h
  split at h
  next s _ =>
    obtain ⟨_, sign, eq⟩ := Option.map_eq_some_iff.1 h
    cases eq
    exact ⟨s, rfl, sign⟩
  next => cases h

/-- What is read after the first term of a chain is nothing or the rest of the chain. -/
lemma links_of_readComparisons (h : readComparisons n a ts = .ok (items, rest)) :
    items = [] ∧ ts = rest ∨ ∃ front, ts = front ++ rest ∧ Links a front items := by
  induction n generalizing a ts items rest with
  | zero => cases h
  | succ n ih =>
    unfold readComparisons at h
    split at h
    next =>
      cases h
      exact .inl ⟨rfl, rfl⟩
    next c us found =>
      simp only [bind_eq_ok, pure_eq_ok] at h
      obtain ⟨⟨b, us⟩, read, ⟨more, us⟩, reads, h⟩ := h
      cases h
      obtain ⟨s, rfl, sign⟩ := read?_eq_some found
      obtain ⟨right, rfl, second⟩ := Term.isSound_read read
      right
      obtain ⟨rfl, rfl⟩ | ⟨front, rfl, links⟩ := ih reads
      · exact ⟨.sign s :: right, rfl, .last sign second⟩
      · exact ⟨.sign s :: (right ++ front), by simp, .more sign second links⟩

/-- The comparisons of a chain make one formula. -/
lemma derives_of_readComparisons (first : Term.Derives .sum front a)
    (h : (do
      match ← readComparisons n a ts with
      | ([], _) => throw .expectedComparison
      | ([only], us) => return (only, us)
      | (several, us) => return (Formula.conj several, us)) = Except.ok (b, rest)) :
    ∃ more, ts = more ++ rest ∧ Derives .atom (front ++ more) b := by
  obtain ⟨⟨items, us⟩, reads, h⟩ := bind_eq_ok.1 h
  obtain ⟨rfl, -⟩ | ⟨more, rfl, links⟩ := links_of_readComparisons reads
  · cases h
  · have chain := Derives.chain first links
    obtain _ | ⟨only, _ | ⟨second, others⟩⟩ := items
    · cases h
    all_goals
      cases h
      exact ⟨more, rfl, chain⟩

lemma isSound_readChain : IsSound readChain (Derives .atom) := by
  intro ts rest b h
  simp only [readChain, bind_eq_ok] at h
  obtain ⟨⟨a, us⟩, read, h⟩ := h
  obtain ⟨front, rfl, first⟩ := Term.isSound_read read
  dsimp only at h
  split at h
  next _ word us =>
    split at h
    next range interval =>
      cases h
      exact ⟨front ++ [.word "in", .bracket word], by simp, .within first interval⟩
    next => cases h
  next => cases h
  next =>
    obtain ⟨more, rfl, spelled⟩ := derives_of_readComparisons first h
    exact ⟨front ++ more, (List.append_assoc ..).symm, spelled⟩

/-- The tokens spell further members of a list of formulas. -/
def Members (k : Connective) (level : Level) (ts : List Token) (items : List Formula) : Prop :=
  ∃ members, ts = Member.spelled members ∧ items = members.map (·.tree) ∧
    (∀ m ∈ members, m.link ∈ k.spellings) ∧ ∀ m ∈ members, Derives level m.tokens m.tree

lemma members_nil : Members k level [] [] :=
  ⟨[], rfl, rfl, List.forall_mem_nil _, List.forall_mem_nil _⟩

lemma Members.cons (spelling : t ∈ k.spellings) (first : Derives level ts b)
    (others : Members k level us items) : Members k level (t :: (ts ++ us)) (b :: items) := by
  obtain ⟨members, rfl, rfl, spellings, others⟩ := others
  exact ⟨⟨t, ts, b⟩ :: members, rfl, rfl, List.forall_mem_cons.2 ⟨spelling, spellings⟩,
    List.forall_mem_cons.2 ⟨first, others⟩⟩

variable {read : List Token → Except SyntaxError (Formula × List Token)}
variable {readMore : List Token → Except SyntaxError (List Formula × List Token)}

/-- A further member is read after a token, and then the members that follow. -/
lemma members_of_read (first : IsSound read (Derives level))
    (more : IsSound readMore (Members k level)) (spelling : t ∈ k.spellings)
    (h : (do let (a, us) ← read ts; let (more, us) ← readMore us; return (a :: more, us)) =
      Except.ok (items, rest)) :
    ∃ front, t :: ts = front ++ rest ∧ Members k level front items := by
  simp only [bind_eq_ok, pure_eq_ok] at h
  obtain ⟨⟨b, us⟩, hread, ⟨items, us⟩, reads, h⟩ := h
  cases h
  obtain ⟨front, rfl, spelled⟩ := first hread
  obtain ⟨others, rfl, members⟩ := more reads
  exact ⟨t :: (front ++ others), by simp, members.cons spelling spelled⟩

lemma ite_isEmpty_eq_flat {make : List Formula → Formula} :
    (if items.isEmpty then b else make (b :: items)) = flat make (b :: items) := by
  cases items <;> rfl

/-- A first member is read and then the members that follow. -/
lemma isSound_list {make : List Formula → Formula} {outer : Level}
    (first : IsSound read (Derives level)) (more : IsSound readMore (Members k level))
    (rule : ∀ {ts us b items}, Derives level ts b → Members k level us items →
      Derives outer (ts ++ us) (flat make (b :: items))) :
    IsSound (fun ts => do
      let (a, ts) ← read ts
      let (more, ts) ← readMore ts
      return (if more.isEmpty then a else make (a :: more), ts)) (Derives outer) := by
  intro ts rest c h
  simp only [bind_eq_ok, pure_eq_ok] at h
  obtain ⟨⟨b, us⟩, hread, ⟨items, us⟩, reads, h⟩ := h
  cases h
  obtain ⟨front, rfl, spelled⟩ := first hread
  obtain ⟨others, rfl, members⟩ := more reads
  rw [ite_isEmpty_eq_flat]
  exact ⟨front ++ others, (List.append_assoc ..).symm, rule spelled members⟩

/-- With this budget, what is read of a formula is what the tokens in front of it spell. -/
structure SoundAt (n : Nat) : Prop where
  disj : IsSound (readDisj n) (Derives .disj)
  alternatives : IsSound (readAlternatives n) (Members .or .xor)
  xor : IsSound (readXor n) (Derives .xor)
  xorFrom : IsSoundFrom (readXorFrom n) (Derives .xor)
  conj : IsSound (readConj n) (Derives .conj)
  conjuncts : IsSound (readConjuncts n) (Members .and .not)
  not : IsSound (readNot n) (Derives .not)
  atom : IsSound (readAtom n) (Derives .atom)

lemma SoundAt.readDisj_succ (ih : SoundAt n) : IsSound (readDisj (n + 1)) (Derives .disj) := by
  simp only [IsSound, readDisj]
  refine isSound_list ih.xor ih.alternatives fun first others => ?_
  obtain ⟨members, rfl, rfl, spellings, others⟩ := others
  exact first.disj spellings others

lemma SoundAt.readAlternatives_succ (ih : SoundAt n) :
    IsSound (readAlternatives (n + 1)) (Members .or .xor) := by
  intro ts rest items h
  unfold readAlternatives at h
  split at h <;> cases ‹n + 1 = _›
  · exact members_of_read ih.xor ih.alternatives (by simp [Connective.spellings]) h
  · exact members_of_read ih.xor ih.alternatives (by simp [Connective.spellings]) h
  · cases h
    exact ⟨[], rfl, members_nil⟩

lemma SoundAt.readXor_succ (ih : SoundAt n) : IsSound (readXor (n + 1)) (Derives .xor) := by
  simp only [IsSound, readXor]
  exact ih.conj.bind ih.xorFrom .conjunction

lemma SoundAt.readXorFrom_succ (ih : SoundAt n) :
    IsSoundFrom (readXorFrom (n + 1)) (Derives .xor) := by
  intro front a first ts rest b h
  unfold readXorFrom at h
  split at h <;> cases ‹n + 1 = _›
  · exact ih.conj.operand ih.xorFrom (first.xor (by simp [Connective.spellings])) h
  · exact ih.conj.operand ih.xorFrom (first.xor (by simp [Connective.spellings])) h
  · exact exists_of_stop first h

lemma SoundAt.readConj_succ (ih : SoundAt n) : IsSound (readConj (n + 1)) (Derives .conj) := by
  simp only [IsSound, readConj]
  refine isSound_list ih.not ih.conjuncts fun first others => ?_
  obtain ⟨members, rfl, rfl, spellings, others⟩ := others
  exact first.conj spellings others

lemma SoundAt.readConjuncts_succ (ih : SoundAt n) :
    IsSound (readConjuncts (n + 1)) (Members .and .not) := by
  intro ts rest items h
  unfold readConjuncts at h
  split at h <;> cases ‹n + 1 = _›
  · exact members_of_read ih.not ih.conjuncts (by simp [Connective.spellings]) h
  · exact members_of_read ih.not ih.conjuncts (by simp [Connective.spellings]) h
  · cases h
    exact ⟨[], rfl, members_nil⟩

/-- What is read after a token of negation is negated. -/
lemma not_of_read (inner : IsSound read (Derives .not)) (spelling : t ∈ Connective.not.spellings)
    (h : (do let (a, us) ← read ts; return (Formula.not a, us)) = Except.ok (b, rest)) :
    ∃ front, t :: ts = front ++ rest ∧ Derives .not front b := by
  simp only [bind_eq_ok, pure_eq_ok] at h
  obtain ⟨⟨b, us⟩, hread, h⟩ := h
  cases h
  obtain ⟨front, rfl, spelled⟩ := inner hread
  exact ⟨t :: front, rfl, spelled.not spelling⟩

lemma SoundAt.readNot_succ (ih : SoundAt n) : IsSound (readNot (n + 1)) (Derives .not) := by
  intro ts rest b h
  unfold readNot at h
  split at h <;> cases ‹n + 1 = _›
  · exact not_of_read ih.not (by simp [Connective.spellings]) h
  · exact not_of_read ih.not (by simp [Connective.spellings]) h
  · obtain ⟨front, eq, spelled⟩ := ih.atom h
    exact ⟨front, eq, spelled.atom⟩

lemma SoundAt.readAtom_succ (ih : SoundAt n) : IsSound (readAtom (n + 1)) (Derives .atom) := by
  intro ts rest b h
  unfold readAtom at h
  split at h <;> cases ‹n + 1 = _›
  · cases h
    exact ⟨[_], rfl, .yes⟩
  · cases h
    exact ⟨[_], rfl, .no⟩
  · split at h
    next read =>
      split at h
      · exact isSound_readChain h
      · cases h
        obtain ⟨front, rfl, inner⟩ := ih.disj read
        exact ⟨_, by simp, inner.group⟩
    next => exact isSound_readChain h
  · exact isSound_readChain h

theorem soundAt (n : Nat) : SoundAt n := by
  induction n with
  | zero =>
    constructor
    case xorFrom => intro _ _ _ _ _ _ h; cases h
    all_goals intro _ _ _ h; cases h
  | succ n ih =>
    exact ⟨ih.readDisj_succ, ih.readAlternatives_succ, ih.readXor_succ, ih.readXorFrom_succ,
      ih.readConj_succ, ih.readConjuncts_succ, ih.readNot_succ, ih.readAtom_succ⟩

/-- A formula that a token list is read as is spelled by it. -/
theorem derives_of_ofTokens (h : ofTokens ts = .ok b) : Derives .disj ts b := by
  simp only [ofTokens, bind_eq_ok] at h
  obtain ⟨⟨a, us⟩, read, h⟩ := h
  obtain ⟨front, rfl, spelled⟩ := (soundAt _).disj read
  split at h
  next eq =>
    cases eq
    cases h
    rwa [List.append_nil]
  next => cases h

end Formula

end SpatialGrammar
