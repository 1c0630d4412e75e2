import Mathlib
import SpatialGrammar.Constraint.Formula.Token
import SpatialGrammar.Proofs.Outcome
import SpatialGrammar.Proofs.Text

/-!
# The tokens of written forms

`Written cs ts` says that characters stand for tokens wherever they are followed by a blank, by a
closing parenthesis or by nothing. Main statements: `written_word`, `written_number` and
`written_bracket` for single tokens, `Written.group` and `Written.between` for their combinations,
and `isLegible_of_scan`, what the tokens of a text are like.
-/

namespace SpatialGrammar.Token

variable {c d : Char} {cs ds rest after : List Char} {t : Token} {ts us : List Token}

/-- The characters are those of a word. -/
def IsWord : List Char → Prop
  | [] => False
  | c :: more => beginsWord c = true ∧ ∀ d ∈ more, continuesWord d = true

instance : DecidablePred IsWord
  | [] => isFalse id
  | _ :: more => @instDecidableAnd _ _ _ (List.decidableBAll _ more)

lemma IsWord.append (h : IsWord cs) (continues : ∀ d ∈ ds, continuesWord d = true) :
    IsWord (cs ++ ds) := by
  cases cs with
  | nil => exact h.elim
  | cons c cs => exact ⟨h.1, List.forall_mem_append.2 ⟨h.2, continues⟩⟩

lemma IsWord.front (h : IsWord (cs ++ ds)) (ne : cs ≠ []) : IsWord cs := by
  cases cs with
  | nil => exact absurd rfl ne
  | cons c cs => exact ⟨h.1, (List.forall_mem_append.1 h.2).1⟩

/-- A word or a number ends in front of the characters. -/
def Breaks : List Char → Prop
  | [] => True
  | c :: _ => c = ' ' ∨ c = ')'

/-- The tokens of a text are the first one behind its blanks and those of the rest. -/
lemma scan_eq (cs : List Char) : scan cs =
    match Text.trimLeft cs with
    | [] => .ok []
    | c :: more => first c more >>= fun (t, after) => (scan after).map (t :: ·) := by
  rw [scan]
  split
  next eq => rw [eq]
  next c more eq =>
    rw [eq]
    split
    next found => simp only [found, bind, Except.bind]
    next found => simp only [found, bind, Except.bind]

lemma scan_nil : scan [] = .ok [] := by
  rw [scan_eq]
  rfl

lemma scan_blank : scan (' ' :: cs) = scan cs := by
  rw [scan_eq, scan_eq cs]
  rfl

lemma scan_cons (visible : Text.isBlank c = false) (h : first c cs = .ok (t, after)) :
    scan (c :: cs) = (scan after).map (t :: ·) := by
  rw [scan_eq, Text.trimLeft_cons visible]
  simp only [h, bind, Except.bind]

/-- The characters stand for the tokens, in front of whatever ends a word or a number. -/
def Written (cs : List Char) (ts : List Token) : Prop :=
  ∀ rest, Breaks rest → scan (cs ++ rest) = (scan rest).map (ts ++ ·)

lemma written_nil : Written [] [] := by
  intro rest _
  cases h : scan rest <;> simp [h, Except.map]

lemma Written.append (front : Written cs ts) (back : Written (d :: ds) us)
    (breaks : d = ' ' ∨ d = ')') : Written (cs ++ d :: ds) (ts ++ us) := by
  intro rest ends
  have next : Breaks (d :: ds ++ rest) := breaks
  rw [List.append_assoc, front _ next, back rest ends]
  cases scan rest <;> simp [Except.map]

lemma Written.blank (h : Written cs ts) : Written (' ' :: cs) ts := by
  intro rest ends
  rw [List.cons_append, scan_blank, h rest ends]

/-- A token that does not depend on what follows it. -/
lemma Written.cons (visible : Text.isBlank c = false)
    (alone : ∀ rest, first c rest = .ok (t, rest)) (h : Written cs ts) :
    Written (c :: cs) (t :: ts) := by
  intro rest ends
  rw [List.cons_append, scan_cons visible (alone _), h rest ends]
  cases scan rest <;> simp [Except.map]

/-- A token that ends where a word or a number does. -/
lemma written_singleton (visible : Text.isBlank c = false)
    (h : ∀ rest, Breaks rest → first c (cs ++ rest) = .ok (t, rest)) : Written (c :: cs) [t] := by
  intro rest ends
  rw [List.cons_append, scan_cons visible (h rest ends)]
  rfl

lemma takeWhile_append_of_breaks {p : Char → Bool} (all : ∀ d ∈ cs, p d = true)
    (stops : p ' ' = false ∧ p ')' = false) (ends : Breaks rest) :
    (cs ++ rest).takeWhile p = cs ∧ (cs ++ rest).dropWhile p = rest := by
  rw [List.takeWhile_append_of_pos all, List.dropWhile_append_of_pos all]
  cases rest with
  | nil => simp
  | cons d rest =>
    have stop : p d = false := by
      obtain rfl | rfl := ends
      · exact stops.1
      · exact stops.2
    simp [stop]

lemma le_or_le_of_isDecimalDigit (h : Text.isDecimalDigit c = true) :
    c.toNat ≤ 0x39 ∨ 0x660 ≤ c.toNat := by
  have starts : ∀ start ∈ Text.digitZeros, start = 0x30 ∨ 0x660 ≤ start := by decide
  obtain ⟨start, mem, h⟩ := List.any_eq_true.1 h
  simp only [Bool.and_eq_true, decide_eq_true_eq] at h
  have := starts start mem
  omega

lemma toNat_of_beginsWord (h : beginsWord c = true) : 0x41 ≤ c.toNat ∧ c.toNat ≤ 0x7A := by
  simp only [beginsWord, Char.isAlpha, Char.isUpper, Char.isLower, Bool.or_eq_true,
    Bool.and_eq_true, decide_eq_true_eq, beq_iff_eq, ge_iff_le, UInt32.le_iff_toNat_le] at h
  obtain (h | h) | rfl := h
  · exact ⟨h.1, Nat.le_trans h.2 (by decide)⟩
  · exact ⟨Nat.le_trans (by decide) h.1, h.2⟩
  · decide

lemma written_word (h : IsWord cs) : Written cs [.word (String.ofList cs)] := by
  cases cs with
  | nil => exact h.elim
  | cons c cs =>
    obtain ⟨begins, continues⟩ := h
    have bounds := toNat_of_beginsWord begins
    have digit : ¬ Text.isDecimalDigit c = true := fun digit => by
      have := le_or_le_of_isDecimalDigit digit
      omega
    refine written_singleton (Text.isBlank_eq_false (by omega)) fun rest ends => ?_
    obtain ⟨taken, left⟩ := takeWhile_append_of_breaks continues (by decide) ends
    rw [first, if_neg digit, if_pos begins, taken, left]

/-- A number that is not negative is written with digits only. -/
lemma written_number {n : Int} (sign : 0 ≤ n) (fits : Word.holds n = true) :
    Written (Decimal.chars n) [.number n] := by
  have read := Decimal.word?_chars n fits
  have digits : ∀ d ∈ Decimal.chars n, d.isDigit = true := by
    rw [Decimal.chars, if_neg (by omega)]
    exact List.all_eq_true.1 (Decimal.all_isDigit_digits _)
  generalize Decimal.chars n = cs at read digits ⊢
  cases cs with
  | nil => cases read
  | cons c cs =>
    rw [List.forall_mem_cons] at digits
    have bounds := Text.toNat_of_isDigit digits.1
    refine written_singleton (Text.isBlank_eq_false (by omega)) fun rest ends => ?_
    have more : ∀ d ∈ cs, Text.isDecimalDigit d = true :=
      fun d mem => Text.isDecimalDigit_of_isDigit (digits.2 d mem)
    obtain ⟨taken, left⟩ := takeWhile_append_of_breaks more (by decide) ends
    rw [first, if_pos (Text.isDecimalDigit_of_isDigit digits.1), taken, left, read]

lemma written_bracket (h : ']' ∉ cs) :
    Written ('[' :: (cs ++ [']'])) [.bracket (String.ofList cs)] := by
  refine written_singleton (by decide) fun rest _ => ?_
  have inside : ∀ d ∈ cs, (d != ']') = true := fun d mem => by
    rw [bne_iff_ne]
    rintro rfl
    exact h mem
  have eq : cs ++ [']'] ++ rest = cs ++ ']' :: rest := by simp
  rw [eq, first, if_neg (by decide), if_neg (by decide), if_pos ⟨rfl, by simp⟩,
    List.takeWhile_append_of_pos inside, List.dropWhile_append_of_pos inside]
  simp

/-- A sign that is a token whatever follows it. -/
lemma written_sign (visible : Text.isBlank c = false)
    (alone : ∀ rest, first c rest = .ok (t, rest)) : Written [c] [t] :=
  written_nil.cons visible alone

/-- Something in parentheses. -/
lemma Written.group (h : Written cs ts) :
    Written ('(' :: (cs ++ [')'])) (.sign .openParen :: (ts ++ [.sign .closeParen])) := by
  have close : Written [')'] [.sign .closeParen] := written_sign (by decide) fun _ => rfl
  exact (h.append close (.inr rfl)).cons (by decide) fun _ => rfl

/-- Something on both sides of a token, with blanks between them. -/
lemma Written.between {link : List Char} (left : Written cs ts) (middle : Written link [t])
    (right : Written ds us) : Written (cs ++ ' ' :: (link ++ ' ' :: ds)) (ts ++ t :: us) :=
  left.append (middle.append right.blank (.inl rfl)).blank (.inl rfl)

/-- What the tokens of a text are like. -/
def IsLegible : Token → Prop
  | .number n => 0 ≤ n ∧ Word.holds n = true
  | .word text => IsWord text.toList
  | .bracket _ | .sign _ => True

/-- A number that is read without a sign is a word and not negative. -/
lemma nonneg_and_holds_of_word? {n : Int} (unsigned : c ≠ '-')
    (h : Decimal.word? (c :: cs) = some n) : 0 ≤ n ∧ Word.holds n = true := by
  obtain ⟨read, fits⟩ := Option.filter_eq_some_iff.1 h
  refine ⟨?_, fits⟩
  split at read
  next eq => exact absurd (List.cons.inj eq).1 unsigned
  next =>
    obtain ⟨k, -, rfl⟩ := Option.map_eq_some_iff.1 read
    exact Int.natCast_nonneg k

lemma isLegible_of_first (h : first c cs = .ok (t, after)) : t.IsLegible := by
  unfold first at h
  split at h
  next digit =>
    split at h
    next n read =>
      cases h
      exact nonneg_and_holds_of_word? (by rintro rfl; exact absurd digit (by decide)) read
    next => cases h
  next =>
    split at h
    next begins =>
      cases h
      rw [IsLegible, String.toList_ofList]
      exact ⟨begins, fun d mem => List.mem_takeWhile_imp mem⟩
    next =>
      split at h
      next =>
        cases h
        trivial
      next =>
        split at h <;> cases h
        trivial

theorem isLegible_of_scan (h : scan cs = .ok ts) : ∀ t ∈ ts, t.IsLegible := by
  induction cs using scan.induct generalizing ts with
  | case1 cs blank =>
    rw [scan_eq, blank] at h
    cases h
    exact List.forall_mem_nil _
  | case2 cs c more trim e found =>
    rw [scan_eq, trim] at h
    simp only [found] at h
    cases h
  | case3 cs c more trim t after found ih =>
    rw [scan_eq, trim] at h
    simp only [found] at h
    obtain ⟨us, eq, rfl⟩ := Outcome.map_eq_ok.1 h
    exact List.forall_mem_cons.2 ⟨isLegible_of_first found, ih eq⟩

end SpatialGrammar.Token
