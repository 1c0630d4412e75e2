import SpatialGrammar.Proofs.Formula.Soundness

/-!
# Token lists that spell formulas are read

The reader never has to look back: a part of a formula is read up to the end of its spelling,
whatever comes after it, unless that could belong to the part. A budget that grows with the number
of tokens is enough. Main statements: `Term.Derives.isRead` and `Formula.Derives.isRead` for the
parts, `Formula.readAtom_openParen`, a chain is read as one although a formula is tried first, and
`Formula.ofTokens_eq_ok_iff`, the token lists that are read are those of the grammar.
-/

namespace SpatialGrammar

open Token

/-- A token list does not begin with one of the given tokens. -/
def Token.Avoids (taken rest : List Token) : Prop := ∀ t ∈ taken, ∀ us, rest ≠ t :: us

variable {n : Nat} {t : Token} {ts us rest taken : List Token}

lemma Token.avoids_cons (h : t ∉ taken) : Avoids taken (t :: ts) := by
  rintro t mem us same
  obtain ⟨rfl, -⟩ := List.cons.inj same
  exact h mem

lemma Token.Avoids.subset {fewer : List Token} (h : Avoids taken rest) (sub : fewer ⊆ taken) :
    Avoids fewer rest := fun t mem => h t (sub mem)

namespace Term

variable {level : Level} {a : Term}

/-- The signs that a sum takes up. -/
def operators : List Token := [.sign .plus, .sign .minus, .sign .times]

lemma readProductFrom_stop (h : Avoids [.sign .times] rest) :
    readProductFrom (n + 1) a rest = .ok (a, rest) :=
  readProductFrom.eq_3 _ _ _ (h (.sign .times) (by simp))

lemma readSumFrom_stop (h : Avoids operators rest) : readSumFrom (n + 1) a rest = .ok (a, rest) :=
  readSumFrom.eq_4 _ _ _ (h (.sign .plus) (by simp [operators]))
    (h (.sign .minus) (by simp [operators]))

/-- A budget that grows with the number of its tokens is enough to read a term. What is read of a
product or a sum depends on the tokens that follow it. -/
def IsRead : Level → List Token → Term → Prop
  | .unary, ts, a => ∀ n rest, 3 * ts.length ≤ n → readUnary n (ts ++ rest) = .ok (a, rest)
  | .product, ts, a => ∀ n rest, 3 * ts.length + 1 ≤ n →
    ∃ k, n ≤ k + ts.length ∧ readProduct n (ts ++ rest) = readProductFrom k a rest
  | .sum, ts, a => ∀ n rest, Avoids [.sign .times] rest → 3 * ts.length + 2 ≤ n →
    ∃ k, n ≤ k + ts.length ∧ readSum n (ts ++ rest) = readSumFrom k a rest

lemma IsRead.readProduct (h : IsRead .product ts a) (ends : Avoids [.sign .times] rest)
    (enough : 3 * ts.length + 1 ≤ n) : readProduct n (ts ++ rest) = .ok (a, rest) := by
  obtain ⟨k, left, read⟩ := h n rest enough
  obtain ⟨k, rfl⟩ : ∃ m, k = m + 1 := ⟨k - 1, by omega⟩
  rw [read, readProductFrom_stop ends]

lemma IsRead.readSum (h : IsRead .sum ts a) (ends : Avoids operators rest)
    (enough : 3 * ts.length + 2 ≤ n) : readSum n (ts ++ rest) = .ok (a, rest) := by
  have factors : Avoids [.sign .times] rest := ends.subset (by simp [operators])
  obtain ⟨k, left, read⟩ := h n rest factors enough
  obtain ⟨k, rfl⟩ : ∃ m, k = m + 1 := ⟨k - 1, by omega⟩
  rw [read, readSumFrom_stop ends]

/-- A summand is read after its sign, if it is clear where it ends. -/
lemma IsRead.sum {t : Token} {b : Term} {make : Term → Term → Term} (left : IsRead .sum ts a)
    (right : IsRead .product us b) (ne : t ≠ .sign .times)
    (step : ∀ n rest, readSumFrom (n + 1) a (t :: rest) =
      (do let (b, rest) ← Term.readProduct n rest; readSumFrom n (make a b) rest)) :
    IsRead .sum (ts ++ t :: us) (make a b) := by
  intro n rest ends enough
  simp only [List.length_cons, List.length_append] at enough ⊢
  obtain ⟨k, spent, read⟩ := left n (t :: (us ++ rest)) (avoids_cons (by simpa using ne)) (by omega)
  obtain ⟨k, rfl⟩ : ∃ m, k = m + 1 := ⟨k - 1, by omega⟩
  refine ⟨k, by omega, ?_⟩
  rw [List.append_assoc, List.cons_append, read, step, right.readProduct ends (by omega)]
  rfl

theorem Derives.isRead (h : Derives level ts a) : IsRead level ts a := by
  induction h with
  | number k =>
    intro n rest enough
    obtain ⟨n, rfl⟩ : ∃ m, n = m + 1 := ⟨n - 1, by simp at enough; omega⟩
    rfl
  | @var word v h =>
    intro n rest enough
    obtain ⟨n, rfl⟩ : ∃ m, n = m + 1 := ⟨n - 1, by simp at enough; omega⟩
    have read : ofWord word = .ok (Term.var v) := by simp [ofWord, h]
    rw [List.singleton_append, readUnary, read]
    rfl
  | @group ts a inner ih =>
    intro n rest enough
    simp only [List.length_cons, List.length_append, List.length_nil] at enough
    obtain ⟨n, rfl⟩ : ∃ m, n = m + 1 := ⟨n - 1, by omega⟩
    have closed : Avoids operators (.sign .closeParen :: rest) :=
      avoids_cons (by simp [operators])
    rw [List.cons_append, List.append_assoc, readUnary, List.singleton_append,
      ih.readSum closed (by omega)]
    rfl
  | @neg ts a inner ih =>
    intro n rest enough
    simp only [List.length_cons] at enough
    obtain ⟨n, rfl⟩ : ∃ m, n = m + 1 := ⟨n - 1, by omega⟩
    rw [List.cons_append, readUnary, ih n rest (by omega)]
    rfl
  | @unary ts a only ih =>
    intro n rest enough
    have := only.length_pos
    obtain ⟨n, rfl⟩ : ∃ m, n = m + 1 := ⟨n - 1, by omega⟩
    refine ⟨n, by omega, ?_⟩
    rw [readProduct, ih n rest (by omega)]
    rfl
  | @mul ts us a b left right ihl ihr =>
    intro n rest enough
    simp only [List.length_cons, List.length_append] at enough ⊢
    obtain ⟨k, spent, read⟩ := ihl n (.sign .times :: (us ++ rest)) (by omega)
    obtain ⟨k, rfl⟩ : ∃ m, k = m + 1 := ⟨k - 1, by omega⟩
    refine ⟨k, by omega, ?_⟩
    rw [List.append_assoc, List.cons_append, read, readProductFrom, ihr k rest (by omega)]
    rfl
  | @product ts a only ih =>
    intro n rest ends enough
    have := only.length_pos
    obtain ⟨n, rfl⟩ : ∃ m, n = m + 1 := ⟨n - 1, by omega⟩
    refine ⟨n, by omega, ?_⟩
    rw [readSum, ih.readProduct ends (by omega)]
    rfl
  | add _ _ ihl ihr => exact ihl.sum ihr (by simp) fun _ _ => rfl
  | sub _ _ ihl ihr => exact ihl.sum ihr (by simp) fun _ _ => rfl

/-- A term is read up to the end of its spelling. -/
theorem read_append (h : Derives .sum ts a) (ends : Avoids operators rest) :
    read (ts ++ rest) = .ok (a, rest) :=
  h.isRead.readSum ends (by simp [readingBudget]; omega)

end Term

namespace Formula

variable {level : Level} {k : Connective} {a : Term} {b : Formula} {items : List Formula}
variable {members : List Member}

lemma avoids_operators (h : continuesTerm rest = false) : Avoids Term.operators rest := by
  rintro t mem us rfl
  simp only [Term.operators, List.mem_cons, List.not_mem_nil, or_false] at mem
  obtain rfl | rfl | rfl := mem <;> cases h

lemma read?_stop (h : continuesTerm rest = false) : Comparison.read? rest = none := by
  unfold Comparison.read?
  split
  next s us =>
    rw [Option.map_eq_none_iff]
    cases s <;> first | rfl | cases h
  next => rfl

lemma Links.exists_sign (h : Links a us items) :
    ∃ s more, us = .sign s :: more ∧ (Comparison.ofSign? s).isSome := by
  cases h with
  | last sign | more sign => exact ⟨_, _, rfl, by rw [sign]; rfl⟩

lemma Links.avoids_operators (h : Links a us items) : Avoids Term.operators (us ++ rest) := by
  obtain ⟨s, more, rfl, compares⟩ := h.exists_sign
  refine avoids_cons fun mem => ?_
  simp only [Term.operators, List.mem_cons, Token.sign.injEq, List.not_mem_nil, or_false] at mem
  obtain rfl | rfl | rfl := mem <;> cases compares

lemma readComparisons_stop (h : continuesTerm rest = false) :
    readComparisons (n + 1) a rest = .ok ([], rest) := by
  rw [readComparisons, read?_stop h]

lemma readComparisons_sign {b : Term} {s : Sign} {c : Comparison}
    (sign : Comparison.ofSign? s = some c) (right : Term.Derives .sum ts b)
    (ends : Avoids Term.operators rest) (more : readComparisons n b rest = .ok (items, us)) :
    readComparisons (n + 1) a (.sign s :: (ts ++ rest)) = .ok (compare a c b :: items, us) := by
  have first : Comparison.read? (.sign s :: (ts ++ rest)) = some (c, ts ++ rest) := by
    rw [Comparison.read?, sign]
    rfl
  have second := Term.read_append right ends
  simp only [readComparisons, first, second, more, bind, Except.bind, pure, Except.pure]

lemma Links.readComparisons_append (h : Links a us items)
    (ends : Formula.continuesTerm rest = false) (enough : us.length < n) :
    readComparisons n a (us ++ rest) = .ok (items, rest) := by
  induction h generalizing n with
  | last sign right =>
    obtain ⟨n, rfl⟩ : ∃ m, n = m + 2 := ⟨n - 2, by simp at enough; omega⟩
    exact readComparisons_sign sign right (Formula.avoids_operators ends)
      (readComparisons_stop ends)
  | more sign right links ih =>
    simp only [List.length_cons, List.length_append] at enough
    obtain ⟨n, rfl⟩ : ∃ m, n = m + 1 := ⟨n - 1, by omega⟩
    rw [List.cons_append, List.append_assoc]
    exact readComparisons_sign sign right links.avoids_operators (ih (by omega))

lemma readChain_links (first : Term.Derives .sum ts a) (links : Links a us items)
    (ends : continuesTerm rest = false) :
    readChain (ts ++ us ++ rest) = .ok (flat conj items, rest) := by
  have goesOn : Avoids Term.operators (us ++ rest) := links.avoids_operators
  have head := Term.read_append first goesOn
  have enough : us.length < (us ++ rest).length + 1 := by
    rw [List.length_append]
    omega
  have tail := links.readComparisons_append ends enough
  obtain ⟨s, more, rfl, -⟩ := links.exists_sign
  rw [List.append_assoc, readChain, head]
  simp only [List.cons_append, bind, Except.bind] at tail ⊢
  rw [tail]
  obtain _ | ⟨only, _ | ⟨second, others⟩⟩ := items
  · cases links
  · rfl
  · rfl

lemma readChain_within {text : String} {range : Interval} (first : Term.Derives .sum ts a)
    (interval : Interval.ofText text = .ok range) :
    readChain (ts ++ [.word "in", .bracket text] ++ rest) = .ok (within a range, rest) := by
  have goesOn : Avoids Term.operators (.word "in" :: .bracket text :: rest) :=
    avoids_cons (by simp [Term.operators])
  have head := Term.read_append first goesOn
  rw [List.append_assoc, readChain, List.cons_append, List.cons_append, List.nil_append, head]
  simp only [bind, Except.bind]
  rw [interval]
  rfl

/-- A chain is read as one even where it begins with a parenthesis: what follows the group goes on
as a term does. -/
lemma readAtom_openParen (goesOn : continuesTerm (afterGroup 0 ts) = true) :
    readAtom (n + 1) (.sign .openParen :: ts) = readChain (.sign .openParen :: ts) := by
  rw [readAtom]
  split
  next b rest read =>
    obtain ⟨front, rfl, spelled⟩ := (soundAt n).disj read
    rw [afterGroup_of_balanced spelled.balanced] at goesOn
    exact if_pos goesOn
  next => rfl

/-- What begins with a term is read as a chain. -/
lemma readAtom_of_term (first : Term.Derives .sum ts a) (goesOn : continuesTerm rest = true) :
    readAtom (n + 1) (ts ++ rest) = readChain (ts ++ rest) := by
  obtain ⟨t, more, rfl, opens⟩ := first.exists_opens
  cases opens with
  | number | minus => rfl
  | @word word v h =>
    have ne (keyword : String) (mem : keyword ∈ ["true", "false", "not"]) : word ≠ keyword := by
      rintro rfl
      exact ofText_ne_ok_of_keyword mem h
    exact readAtom.eq_5 _ _ (by simp [ne]) (by simp [ne]) (by simp)
  | openParen => exact readAtom_openParen (first.continuesTerm_afterGroup goesOn)

/-- The connectives that a part of a formula takes up. -/
def Level.connectives : Level → List Token
  | .atom | .not => []
  | .conj | .xor => Connective.and.spellings
  | .disj => Connective.and.spellings ++ Connective.xor.spellings ++ Connective.or.spellings

/-- Nothing in front of a token list belongs to a part of a formula that ends there; an exclusive
disjunction may be one that goes on. -/
def Ends (level : Level) (rest : List Token) : Prop :=
  continuesTerm rest = false ∧ Avoids level.connectives rest

/-- A budget that grows with the number of its tokens is enough to read a formula. -/
def IsRead : Level → List Token → Formula → Prop
  | .atom, ts, b => ∀ n rest, Ends .atom rest → 5 * ts.length ≤ n →
    readAtom n (ts ++ rest) = .ok (b, rest)
  | .not, ts, b => ∀ n rest, Ends .not rest → 5 * ts.length + 1 ≤ n →
    readNot n (ts ++ rest) = .ok (b, rest)
  | .conj, ts, b => ∀ n rest, Ends .conj rest → 5 * ts.length + 2 ≤ n →
    readConj n (ts ++ rest) = .ok (b, rest)
  | .xor, ts, b => ∀ n rest, Ends .xor rest → 5 * ts.length + 3 ≤ n →
    ∃ k, n ≤ k + ts.length + 1 ∧ readXor n (ts ++ rest) = readXorFrom k b rest
  | .disj, ts, b => ∀ n rest, Ends .disj rest → 5 * ts.length + 4 ≤ n →
    readDisj n (ts ++ rest) = .ok (b, rest)

lemma not_mem_spellings_of_opens (h : Term.Opens t) : t ∉ Connective.not.spellings := by
  cases h with
  | number | minus | openParen => simp [Connective.spellings]
  | @word word v read =>
    intro mem
    obtain rfl : word = "not" := by simpa [Connective.spellings] using mem
    exact ofText_ne_ok_of_keyword (by simp) read

/-- Neither a constant nor a parenthesis nor a term begins with a negation. -/
lemma Derives.avoids_not (h : Derives .atom ts b) :
    Avoids Connective.not.spellings (ts ++ rest) := by
  cases h with
  | yes | no | group => exact avoids_cons (by simp [Connective.spellings])
  | chain first | within first =>
    obtain ⟨t, more, rfl, opens⟩ := first.exists_opens
    exact avoids_cons (not_mem_spellings_of_opens opens)

lemma readNot_of_avoids (h : Avoids Connective.not.spellings ts) :
    readNot (n + 1) ts = readAtom n ts :=
  readNot.eq_4 _ _ (h (.word "not") (by simp [Connective.spellings]))
    (h (.sign .bang) (by simp [Connective.spellings]))

lemma continuesTerm_spelling (h : t ∈ k.spellings) : continuesTerm (t :: ts) = false := by
  cases k <;> obtain rfl | rfl := List.mem_pair.1 h <;> rfl

lemma ends_cons (h : t ∈ k.spellings) (other : t ∉ level.connectives) : Ends level (t :: ts) :=
  ⟨continuesTerm_spelling h, avoids_cons other⟩

lemma not_mem_spellings (other : Connective) (ne : k ≠ other) (h : t ∈ k.spellings) :
    t ∉ other.spellings := by
  cases k <;> obtain rfl | rfl := List.mem_pair.1 h <;> cases other <;>
    first | exact absurd rfl ne | simp [Connective.spellings]

lemma Ends.not (h : Ends level rest) : Ends .not rest := ⟨h.1, by simp [Avoids, Level.connectives]⟩

lemma readXorFrom_stop (h : Avoids Connective.xor.spellings rest) :
    readXorFrom (n + 1) b rest = .ok (b, rest) :=
  readXorFrom.eq_4 _ _ _ (h (.word "xor") (by simp [Connective.spellings]))
    (h (.sign .caret) (by simp [Connective.spellings]))

lemma readConjuncts_stop (h : Avoids Connective.and.spellings rest) :
    readConjuncts (n + 1) rest = .ok ([], rest) :=
  readConjuncts.eq_4 _ _ (h (.word "and") (by simp [Connective.spellings]))
    (h (.sign .andAnd) (by simp [Connective.spellings]))

lemma readAlternatives_stop (h : Avoids Connective.or.spellings rest) :
    readAlternatives (n + 1) rest = .ok ([], rest) :=
  readAlternatives.eq_4 _ _ (h (.word "or") (by simp [Connective.spellings]))
    (h (.sign .orOr) (by simp [Connective.spellings]))

/-- What holds of whatever begins with a connective and of what follows the last member, holds of
what follows each member. -/
lemma follows_spelled (follows : List Token → Prop)
    (links : ∀ t ∈ k.spellings, ∀ ts, follows (t :: ts)) (last : follows rest)
    (spellings : ∀ m ∈ members, m.link ∈ k.spellings) :
    follows (Member.spelled members ++ rest) := by
  cases members with
  | nil => exact last
  | cons m members => exact links _ (spellings m List.mem_cons_self) _

/-- Members that follow each other are read one after the other, if each is read in front of the
token of the next one and of what follows the last one. -/
lemma readMembers_spelled (follows : List Token → Prop)
    {read : Nat → List Token → Except SyntaxError (Formula × List Token)}
    {readMore : Nat → List Token → Except SyntaxError (List Formula × List Token)}
    (step : ∀ n, ∀ t ∈ k.spellings, ∀ ts, readMore (n + 1) (t :: ts) = do
      let (a, ts) ← read n ts
      let (more, ts) ← readMore n ts
      return (a :: more, ts))
    (stop : ∀ n, readMore (n + 1) rest = .ok ([], rest))
    (links : ∀ t ∈ k.spellings, ∀ ts, follows (t :: ts)) (last : follows rest)
    (spellings : ∀ m ∈ members, m.link ∈ k.spellings)
    (each : ∀ m ∈ members, ∀ n rest, follows rest → 5 * m.tokens.length + 4 ≤ n →
      read n (m.tokens ++ rest) = .ok (m.tree, rest))
    (enough : 5 * (Member.spelled members).length < n) :
    readMore n (Member.spelled members ++ rest) = .ok (members.map (·.tree), rest) := by
  induction members generalizing n with
  | nil =>
    obtain ⟨n, rfl⟩ : ∃ m, n = m + 1 := ⟨n - 1, by omega⟩
    exact stop n
  | cons m members ih =>
    rw [List.forall_mem_cons] at spellings each
    simp only [Member.spelled, List.flatMap_cons, List.length_cons, List.length_append] at enough
    obtain ⟨n, rfl⟩ : ∃ m, n = m + 1 := ⟨n - 1, by omega⟩
    have follow := follows_spelled follows links last spellings.2
    have first := each.1 n _ follow (by omega)
    have others := ih spellings.2 each.2 (n := n) (by rw [Member.spelled]; omega)
    have eq : Member.spelled (m :: members) ++ rest =
        m.link :: (m.tokens ++ (Member.spelled members ++ rest)) := by
      simp [Member.spelled]
    rw [eq, step n _ spellings.1, first]
    simp only [bind, Except.bind, others]
    rfl

lemma readConjuncts_succ (h : t ∈ Connective.and.spellings) (ts : List Token) :
    readConjuncts (n + 1) (t :: ts) = do
      let (a, ts) ← readNot n ts
      let (more, ts) ← readConjuncts n ts
      return (a :: more, ts) := by
  obtain rfl | rfl := List.mem_pair.1 h <;> rfl

lemma readAlternatives_succ (h : t ∈ Connective.or.spellings) (ts : List Token) :
    readAlternatives (n + 1) (t :: ts) = do
      let (a, ts) ← readXor n ts
      let (more, ts) ← readAlternatives n ts
      return (a :: more, ts) := by
  obtain rfl | rfl := List.mem_pair.1 h <;> rfl

lemma readXorFrom_succ (h : t ∈ Connective.xor.spellings) :
    readXorFrom (n + 1) b (t :: ts) =
      (do let (c, ts) ← readConj n ts; readXorFrom n (xor b c) ts) := by
  obtain rfl | rfl := List.mem_pair.1 h <;> rfl

lemma readNot_succ (h : t ∈ Connective.not.spellings) :
    readNot (n + 1) (t :: ts) = do
      let (b, ts) ← readNot n ts
      return (Formula.not b, ts) := by
  obtain rfl | rfl := List.mem_pair.1 h <;> rfl

lemma IsRead.readXor (h : IsRead .xor ts b) (ends : Ends .xor rest)
    (stop : Avoids Connective.xor.spellings rest) (enough : 5 * ts.length + 3 ≤ n) :
    readXor n (ts ++ rest) = .ok (b, rest) := by
  obtain ⟨k, left, read⟩ := h n rest ends enough
  obtain ⟨k, rfl⟩ : ∃ m, k = m + 1 := ⟨k - 1, by omega⟩
  rw [read, readXorFrom_stop stop]

lemma IsRead.conj (first : IsRead .not ts b)
    (spellings : ∀ m ∈ members, m.link ∈ Connective.and.spellings)
    (others : ∀ m ∈ members, IsRead .not m.tokens m.tree) :
    IsRead .conj (ts ++ Member.spelled members) (flat conj (b :: members.map (·.tree))) := by
  intro n rest ends enough
  rw [List.length_append] at enough
  obtain ⟨n, rfl⟩ : ∃ m, n = m + 1 := ⟨n - 1, by omega⟩
  have links : ∀ t ∈ Connective.and.spellings, ∀ ts, Ends .not (t :: ts) :=
    fun t link ts => ends_cons link (by simp [Level.connectives])
  have head := first n _ (follows_spelled _ links ends.not spellings) (by omega)
  have tail := readMembers_spelled (Ends .not) (fun _ _ => readConjuncts_succ)
    (fun _ => readConjuncts_stop ends.2) links ends.not spellings
    (fun m mem n rest follow enough => others m mem n rest follow (by omega)) (n := n) (by omega)
  rw [List.append_assoc, readConj, head]
  simp only [bind, Except.bind, tail, ite_isEmpty_eq_flat]
  rfl

lemma IsRead.disj (first : IsRead .xor ts b)
    (spellings : ∀ m ∈ members, m.link ∈ Connective.or.spellings)
    (others : ∀ m ∈ members, IsRead .xor m.tokens m.tree) :
    IsRead .disj (ts ++ Member.spelled members) (flat disj (b :: members.map (·.tree))) := by
  intro n rest ends enough
  rw [List.length_append] at enough
  obtain ⟨n, rfl⟩ : ∃ m, n = m + 1 := ⟨n - 1, by omega⟩
  let follows (us : List Token) : Prop := Ends .xor us ∧ Avoids Connective.xor.spellings us
  have links : ∀ t ∈ Connective.or.spellings, ∀ ts, follows (t :: ts) :=
    fun t link ts => ⟨ends_cons link (not_mem_spellings .and (by simp) link),
      avoids_cons (not_mem_spellings .xor (by simp) link)⟩
  have last : follows rest :=
    ⟨⟨ends.1, ends.2.subset (by simp [Level.connectives])⟩,
      ends.2.subset (by simp [Level.connectives])⟩
  obtain ⟨ends', stop⟩ := follows_spelled follows links last spellings
  have head := first.readXor (n := n) ends' stop (by omega)
  have none : Avoids Connective.or.spellings rest := ends.2.subset (by simp [Level.connectives])
  have tail := readMembers_spelled follows (fun _ _ => readAlternatives_succ)
    (fun _ => readAlternatives_stop none) links last spellings
    (fun m mem n rest follow enough => (others m mem).readXor follow.1 follow.2 (by omega))
    (n := n) (by omega)
  rw [List.append_assoc, readDisj, head]
  simp only [bind, Except.bind, tail, ite_isEmpty_eq_flat]
  rfl

theorem Derives.isRead (h : Derives level ts b) : IsRead level ts b := by
  induction h with
  | yes | no =>
    intro n rest ends enough
    obtain ⟨n, rfl⟩ : ∃ m, n = m + 1 := ⟨n - 1, by simp at enough; omega⟩
    rfl
  | @group ts b inner ih =>
    intro n rest ends enough
    simp only [List.length_cons, List.length_append, List.length_nil] at enough
    obtain ⟨n, rfl⟩ : ∃ m, n = m + 1 := ⟨n - 1, by omega⟩
    have closed : Ends .disj (.sign .closeParen :: rest) :=
      ⟨rfl, avoids_cons (by simp [Level.connectives, Connective.spellings])⟩
    have read := ih n _ closed (by omega)
    rw [List.cons_append, List.append_assoc, List.singleton_append, readAtom, read]
    exact if_neg (by simp [ends.1])
  | @chain ts us a items first links =>
    intro n rest ends enough
    have := first.length_pos
    rw [List.length_append] at enough
    obtain ⟨n, rfl⟩ : ∃ m, n = m + 1 := ⟨n - 1, by omega⟩
    rw [List.append_assoc, readAtom_of_term first links.continuesTerm, ← List.append_assoc]
    exact readChain_links first links ends.1
  | @within ts a text range first interval =>
    intro n rest ends enough
    have := first.length_pos
    rw [List.length_append] at enough
    obtain ⟨n, rfl⟩ : ∃ m, n = m + 1 := ⟨n - 1, by omega⟩
    rw [List.append_assoc, readAtom_of_term first rfl, ← List.append_assoc]
    exact readChain_within first interval
  | @atom ts b only ih =>
    intro n rest ends enough
    obtain ⟨n, rfl⟩ : ∃ m, n = m + 1 := ⟨n - 1, by omega⟩
    rw [readNot_of_avoids only.avoids_not]
    exact ih n rest ends (by omega)
  | @not t ts b spelling inner ih =>
    intro n rest ends enough
    rw [List.length_cons] at enough
    obtain ⟨n, rfl⟩ : ∃ m, n = m + 1 := ⟨n - 1, by omega⟩
    rw [List.cons_append, readNot_succ spelling, ih n rest ends (by omega)]
    rfl
  | conj _ spellings _ ih ihs => exact ih.conj spellings ihs
  | @conjunction ts b only ih =>
    intro n rest ends enough
    obtain ⟨n, rfl⟩ : ∃ m, n = m + 1 := ⟨n - 1, by omega⟩
    refine ⟨n, by omega, ?_⟩
    rw [readXor, ih n rest ends (by omega)]
    rfl
  | @xor t ts us b c left spelling right ihl ihr =>
    intro n rest ends enough
    simp only [List.length_append, List.length_cons] at enough ⊢
    have follow : Ends .xor (t :: (us ++ rest)) :=
      ends_cons spelling (not_mem_spellings .and (by simp) spelling)
    obtain ⟨k, spent, read⟩ := ihl n _ follow (by omega)
    obtain ⟨k, rfl⟩ : ∃ m, k = m + 1 := ⟨k - 1, by omega⟩
    refine ⟨k, by omega, ?_⟩
    rw [List.append_assoc, List.cons_append, read, readXorFrom_succ spelling,
      ihr k rest ends (by omega)]
    rfl
  | disj _ spellings _ ih ihs => exact ih.disj spellings ihs

/-- A token list is read as the formula that it spells. -/
theorem ofTokens_of_derives (h : Derives .disj ts b) : ofTokens ts = .ok b := by
  have ends : Ends .disj [] := ⟨rfl, fun _ _ _ => by simp⟩
  have read := h.isRead (readingBudget ts) [] ends (by simp only [readingBudget]; omega)
  rw [List.append_nil] at read
  rw [ofTokens, Formula.read, read]
  rfl

/-- A parenthesis in front of a comparison: `(1) < 2`. -/
example : ofTokens [.sign .openParen, .number 1, .sign .closeParen, .sign .less, .number 2] =
    .ok (compare (.number 1) .lt (.number 2)) := by cbv

/-- No token list spells two formulas. -/
theorem Derives.tree_unique {c : Formula} (hb : Derives .disj ts b) (hc : Derives .disj ts c) :
    b = c :=
  Except.ok.inj ((ofTokens_of_derives hb).symm.trans (ofTokens_of_derives hc))

/-- A token list is read as a formula exactly if it spells it. -/
theorem ofTokens_eq_ok_iff : ofTokens ts = .ok b ↔ Derives .disj ts b :=
  ⟨derives_of_ofTokens, ofTokens_of_derives⟩

end Formula

end SpatialGrammar
