import SpatialGrammar.Proofs.Formula.Completeness
import SpatialGrammar.Proofs.Formula.Legibility
import SpatialGrammar.Proofs.Formula.Regrouping

/-!
# Reading back the written forms of formulas

Main statements: `Formula.written_text`, the written form of a formula stands for its tokens,
`Formula.derives_regrouped`, these spell the regrouped formula, and `Formula.exists_ofText_text`,
a formula that has been read is read back from its written form up to the grouping of products.
-/

namespace SpatialGrammar

open Token

/-- The sign that a comparison is written with. -/
def Comparison.sign : Comparison → Sign
  | lt => .less
  | le => .lessEqual
  | eq => .equalEqual
  | ne => .notEqual
  | ge => .greaterEqual
  | gt => .greater

lemma Comparison.ofSign?_sign (c : Comparison) : ofSign? c.sign = some c := by
  cases c <;> rfl

/-- A comparison is written as its sign. -/
lemma Comparison.written_symbol (c : Comparison) : Written c.symbol.toList [.sign c.sign] := by
  cases c with
  | le | eq | ne | ge => exact written_singleton (by decide) fun _ _ => rfl
  | lt | gt =>
    refine written_singleton (by decide) fun rest ends => ?_
    cases rest with
    | nil => rfl
    | cons d rest => obtain rfl | rfl := ends <;> rfl

namespace Term

/-- The tokens of the written form of a term. -/
def tokens : Term → List Token
  | number n => [.number n]
  | var v => [.word v.text]
  | add a b => .sign .openParen :: (a.tokens ++ .sign .plus :: b.tokens ++ [.sign .closeParen])
  | sub a b => .sign .openParen :: (a.tokens ++ .sign .minus :: b.tokens ++ [.sign .closeParen])
  | mul a b => a.tokens ++ .sign .times :: b.tokens
  | neg a => .sign .minus :: a.tokens

variable {before : Term → Term} {front : List Token} {a : Term}

/-- Tokens that make a product of any factor make the regrouped term of a term. -/
lemma derives_regroup (legible : a.IsLegible)
    (makes : ∀ {us x}, Derives .unary us x → Derives .product (front ++ us) (before x)) :
    Derives .product (front ++ a.tokens) (regroup before a) := by
  induction a generalizing before front with
  | number n => exact makes (.number n)
  | var v => exact makes (.var legible.named)
  | add a b iha ihb =>
    have left : Derives .product ([] ++ a.tokens) (regroup id a) := iha legible.1 .unary
    have right : Derives .product ([] ++ b.tokens) (regroup id b) := ihb legible.2 .unary
    exact makes (.group (left.product.add right))
  | sub a b iha ihb =>
    have left : Derives .product ([] ++ a.tokens) (regroup id a) := iha legible.1 .unary
    have right : Derives .product ([] ++ b.tokens) (regroup id b) := ihb legible.2 .unary
    exact makes (.group (left.product.sub right))
  | mul a b iha ihb =>
    have left := iha legible.1 makes
    have both : Derives .product (front ++ a.tokens ++ [.sign .times] ++ b.tokens)
        (regroup (mul (regroup before a)) b) := ihb legible.2 fun factor => by
      rw [List.append_assoc]
      exact left.mul factor
    rwa [tokens, regroup, List.append_cons, ← List.append_assoc, ← List.append_assoc]
  | neg a ih =>
    have inner : Derives .product (front ++ [.sign .minus] ++ a.tokens)
        (regroup (fun x => before (neg x)) a) := ih legible fun factor => by
      rw [List.append_assoc]
      exact makes factor.neg
    rwa [List.append_assoc] at inner

theorem derives_regrouped (legible : a.IsLegible) : Derives .product a.tokens a.regrouped := by
  have spelled : Derives .product ([] ++ a.tokens) a.regrouped := derives_regroup legible .unary
  exact spelled

/-- The written form of a term stands for its tokens. -/
theorem written_text (legible : a.IsLegible) : Written a.text.toList a.tokens := by
  have plus : Written ['+'] [.sign .plus] := written_sign (by decide) fun _ => rfl
  have minus : Written ['-'] [.sign .minus] := written_sign (by decide) fun _ => rfl
  have times : Written ['*'] [.sign .times] := written_sign (by decide) fun _ => rfl
  induction a with
  | number n =>
    rw [text, Decimal.text, String.toList_ofList]
    exact written_number legible.1 legible.2
  | var v =>
    have word := written_word legible.word
    rwa [String.ofList_toList] at word
  | add a b iha ihb =>
    have sum := ((iha legible.1).between plus (ihb legible.2)).group
    simpa [text, tokens] using sum
  | sub a b iha ihb =>
    have difference := ((iha legible.1).between minus (ihb legible.2)).group
    simpa [text, tokens] using difference
  | mul a b iha ihb =>
    have product := (iha legible.1).between times (ihb legible.2)
    simpa [text, tokens] using product
  | neg a ih =>
    have negation := (ih legible).cons (c := '-') (t := .sign .minus) (by decide) fun _ => rfl
    simpa [text, tokens] using negation

end Term

namespace Formula

mutual

/-- The tokens of the written form of a formula. -/
def tokens : Formula → List Token
  | const b => [.word (toString b)]
  | compare a c b => a.tokens ++ .sign c.sign :: b.tokens
  | within a range => a.tokens ++ [.word "in", .bracket range.text]
  | conj items => .sign .openParen :: (joinedTokens (.word "and") items ++ [.sign .closeParen])
  | disj items => .sign .openParen :: (joinedTokens (.word "or") items ++ [.sign .closeParen])
  | xor a b => .sign .openParen :: (a.tokens ++ .word "xor" :: b.tokens ++ [.sign .closeParen])
  | not a => .word "not" :: a.tokens

/-- The tokens of the written forms of formulas with a token between them. -/
def joinedTokens (link : Token) : List Formula → List Token
  | [] => []
  | [a] => a.tokens
  | a :: rest => a.tokens ++ link :: joinedTokens link rest

end

/-- A formula as a further member of a list. -/
def asMember (link : Token) (a : Formula) : Member := ⟨link, a.tokens, a.regrouped⟩

variable {a : Formula} {items : List Formula} {link : Token}

lemma joinedTokens_cons : joinedTokens link (a :: items) =
    a.tokens ++ Member.spelled (items.map (asMember link)) := by
  induction items generalizing a with
  | nil => exact (List.append_nil _).symm
  | cons b items ih =>
    rw [joinedTokens, ih]
    · rfl
    · simp

lemma link_asMember {k : Connective} (spelling : link ∈ k.spellings) :
    ∀ m ∈ items.map (asMember link), m.link ∈ k.spellings :=
  List.forall_mem_map.2 fun _ _ => spelling

lemma derives_asMember {level : Level} (each : ∀ x ∈ items, Derives level x.tokens x.regrouped) :
    ∀ m ∈ items.map (asMember link), Derives level m.tokens m.tree :=
  List.forall_mem_map.2 each

/-- The tokens of the written form spell the regrouped formula, wherever a negation may stand. -/
theorem derives_regrouped (legible : a.IsLegible) : Derives .not a.tokens a.regrouped := by
  induction legible with
  | const b => cases b <;> exact .atom (by constructor)
  | compare c left right =>
    exact .atom (.chain (Term.derives_regrouped left).product
      (.last c.ofSign?_sign (Term.derives_regrouped right).product))
  | within term read => exact .atom (.within (Term.derives_regrouped term).product read)
  | @conj a b more each ih =>
    obtain ⟨first, others⟩ := List.forall_mem_cons.1 ih
    have spelling : .word "and" ∈ Connective.and.spellings := List.mem_cons_self
    have members := first.conj (link_asMember spelling) (derives_asMember others)
    rw [← joinedTokens_cons, List.map_map] at members
    rw [tokens, regrouped, regroupedOf_eq_map]
    exact .atom (.group members.conjunction.disj_of_xor)
  | @disj a b more each ih =>
    obtain ⟨first, others⟩ := List.forall_mem_cons.1 ih
    have spelling : .word "or" ∈ Connective.or.spellings := List.mem_cons_self
    have members := first.xor_of_not.disj (link_asMember spelling)
      (derives_asMember fun x mem => (others x mem).xor_of_not)
    rw [← joinedTokens_cons, List.map_map] at members
    rw [tokens, regrouped, regroupedOf_eq_map]
    exact .atom (.group members)
  | xor _ _ iha ihb =>
    have spelling : .word "xor" ∈ Connective.xor.spellings := List.mem_cons_self
    exact .atom (.group (iha.xor_of_not.xor spelling ihb.conj_of_not).disj_of_xor)
  | not _ ih => exact ih.not List.mem_cons_self

/-- The written forms of formulas with a word between them stand for their tokens. -/
lemma written_joined (word : String) (isWord : IsWord word.toList) (ne : items ≠ [])
    (each : ∀ x ∈ items, Written x.text.toList x.tokens) :
    Written (joined (" " ++ word ++ " ") items).toList (joinedTokens (.word word) items) := by
  have middle := written_word isWord
  rw [String.ofList_toList] at middle
  induction items with
  | nil => exact absurd rfl ne
  | cons a items ih =>
    rw [List.forall_mem_cons] at each
    cases items with
    | nil => exact each.1
    | cons b items =>
      have all := each.1.between middle (ih (List.cons_ne_nil b items) each.2)
      simpa [joined, joinedTokens] using all

/-- The written form of a formula stands for its tokens. -/
theorem written_text (legible : a.IsLegible) : Written a.text.toList a.tokens := by
  induction legible with
  | const b =>
    have truth : IsWord (toString b).toList := by cases b <;> decide
    have word := written_word truth
    rwa [String.ofList_toList] at word
  | compare c left right =>
    have comparison := (Term.written_text left).between c.written_symbol (Term.written_text right)
    simpa [text, tokens] using comparison
  | @within a range term read =>
    have closed : ']' ∉ range.chars := fun mem => (Interval.visible_of_mem_chars mem).2 rfl
    have word : Written "in".toList [.word "in"] := written_word (by decide)
    have membership := (Term.written_text term).between word (written_bracket closed)
    simpa [text, tokens, Interval.text] using membership
  | conj each ih =>
    have members := written_joined "and" (by decide) (List.cons_ne_nil _ _) ih
    simpa [text, tokens] using members.group
  | disj each ih =>
    have members := written_joined "or" (by decide) (List.cons_ne_nil _ _) ih
    simpa [text, tokens] using members.group
  | xor _ _ iha ihb =>
    have word : Written "xor".toList [.word "xor"] := written_word (by decide)
    simpa [text, tokens] using (iha.between word ihb).group
  | not _ ih =>
    have word : Written "not".toList [.word "not"] := written_word (by decide)
    simpa [text, tokens] using word.append ih.blank (.inl rfl)

lemma ofText_eq_ok {t : String} (h : ofText t = .ok a) :
    ∃ ts, scan t.toList = .ok ts ∧ ofTokens ts = .ok a := by
  unfold ofText at h
  split at h
  next => cases h
  next ts scanned =>
    split at h <;> cases h
    exact ⟨ts, scanned, ‹_›⟩

/-- A formula that has been read can be written down. -/
theorem isLegible_of_ofText {t : String} (h : ofText t = .ok a) : a.IsLegible := by
  obtain ⟨ts, scanned, read⟩ := ofText_eq_ok h
  exact (derives_of_ofTokens read).isLegible (isLegible_of_scan scanned)

/-- What is read from the written form of a formula is the regrouped formula. -/
theorem ofText_text (legible : a.IsLegible) : ofText a.text = .ok a.regrouped := by
  have scanned : scan a.text.toList = .ok a.tokens := by
    have all := written_text legible [] trivial
    rw [List.append_nil, scan_nil] at all
    simpa [Except.map] using all
  have read := ofTokens_of_derives (derives_regrouped legible).xor_of_not.disj_of_xor
  unfold ofText
  rw [scanned]
  simp only [read]

/-- The written form of a formula that has been read can be read, and gives a formula with the same
variables, the same values and the same written form. -/
theorem exists_ofText_text {t : String} (h : ofText t = .ok a) :
    ∃ b, ofText a.text = .ok b ∧ b.variableList = a.variableList ∧
      (∀ ρ, b.value? ρ = a.value? ρ) ∧ b.text = a.text := by
  refine ⟨a.regrouped, ofText_text (isLegible_of_ofText h), ?_, fun ρ => a.value?_regrouped,
    a.text_regrouped⟩
  rw [variableList, variableList, a.mentions_regrouped]

/-- Products group to the left in the written form, a negation reaches one factor only, and a chain
is a conjunction. -/
theorem exists_ofText_text_product : ∃ a b,
    ofText "-(x * (w * h)) - 1 <= left < 5 or not _w in [2..4]" = .ok a ∧
      a.text = "(((-left * w * h - 1) <= left and left < 5) or not _w in [2..4])" ∧
      ofText a.text = .ok b ∧ b.variableList = a.variableList ∧
      (∀ ρ, b.value? ρ = a.value? ρ) ∧ b.text = a.text := by
  let own (attr : Attribute) : Term := .var ⟨Name.own, attr⟩
  let area : Term := .neg (.mul (own .left) (.mul (own .width) (own .height)))
  let range : Interval := ⟨some 2, some 4, by decide⟩
  have read : ofText "-(x * (w * h)) - 1 <= left < 5 or not _w in [2..4]" = .ok (disj
      [conj [compare (.sub area (.number 1)) .le (own .left), compare (own .left) .lt (.number 5)],
        not (within (.var ⟨Name.parent, .width⟩) range)]) := by cbv
  obtain ⟨b, again, same⟩ := exists_ofText_text read
  exact ⟨_, b, read, by cbv, again, same⟩

end Formula

end SpatialGrammar
