import Mathlib
import SpatialGrammar.Plane.Interval.Notation
import SpatialGrammar.Proofs.Text

/-!
# The spellings of intervals

Which texts name an interval: a number, a number with a sign behind it, two ends with dots or a comma
between them, or a star, with blank characters around all parts. Main statements:
`Decimal.word?_eq_some`, the texts that spell an integer, and `Interval.readEnds?_trim_eq_some`, the
ends that are read are those that the text spells, if they are words.
-/

namespace SpatialGrammar

namespace Decimal

variable {n : Int} {cs ds : List Char}

/-- A text spells an integer in base ten: by digits, which may stand behind a minus sign. -/
inductive Spells : List Char → Int → Prop where
  | digits {ds : List Char} (some : ds ≠ []) (all : ∀ d ∈ ds, d.isDigit = true) :
    Spells ds (Nat.ofDigitChars 10 ds 0 : Nat)
  | minus {ds : List Char} (some : ds ≠ []) (all : ∀ d ∈ ds, d.isDigit = true) :
    Spells ('-' :: ds) (-(Nat.ofDigitChars 10 ds 0 : Nat))

lemma nat?_eq_some {k : Nat} : nat? ds = some k ↔
    ds ≠ [] ∧ (∀ d ∈ ds, d.isDigit = true) ∧ Nat.ofDigitChars 10 ds 0 = k := by
  have refused : (ds.isEmpty || !ds.all Char.isDigit) = true ↔
      ¬ (ds ≠ [] ∧ ∀ d ∈ ds, d.isDigit = true) := by
    rw [Bool.or_eq_true, List.isEmpty_iff, Bool.not_eq_true', ← Bool.not_eq_true, List.all_eq_true,
      not_and_or, not_not]
  rw [nat?, ← and_assoc]
  split
  next h => simp only [reduceCtorEq, refused.1 h, false_and]
  next h => rw [Option.some.injEq, and_iff_right (not_not.1 (mt refused.2 h))]

/-- The texts that are read as words spell integers that fit words. -/
theorem word?_eq_some : word? cs = some n ↔ Spells cs n ∧ Word.holds n = true := by
  unfold word?
  simp only [Option.filter_eq_some_iff]
  refine and_congr_left fun _ => ?_
  split
  next ds =>
    simp only [Option.map_eq_some_iff, nat?_eq_some]
    constructor
    · rintro ⟨_, ⟨filled, all, rfl⟩, rfl⟩
      exact .minus filled all
    · intro h
      cases h with
      | digits _ all => exact absurd (all '-' List.mem_cons_self) (by decide)
      | minus filled all => exact ⟨_, ⟨filled, all, rfl⟩, rfl⟩
  next ds other =>
    simp only [Option.map_eq_some_iff, nat?_eq_some]
    constructor
    · rintro ⟨_, ⟨filled, all, rfl⟩, rfl⟩
      exact .digits filled all
    · intro h
      cases h with
      | digits filled all => exact ⟨_, ⟨filled, all, rfl⟩, rfl⟩
      | minus => exact absurd rfl (other _)

lemma Spells.ne_nil (h : Spells cs n) : cs ≠ [] := by
  cases h with
  | digits some => exact some
  | minus => exact List.cons_ne_nil _ _

lemma Spells.minus_or_isDigit (h : Spells cs n) : ∀ c ∈ cs, c = '-' ∨ c.isDigit = true := by
  cases h with
  | digits _ all => exact fun c mem => .inr (all c mem)
  | minus _ all => exact fun c mem => (List.mem_cons.1 mem).imp_right (all c)

lemma Spells.visible (h : Spells cs n) : ∀ c ∈ cs, Text.isBlank c = false := by
  intro c mem
  cases h.minus_or_isDigit c mem with
  | inl minus => exact minus ▸ by decide
  | inr digit =>
    have bounds := Text.toNat_of_isDigit digit
    exact Text.isBlank_eq_false (by omega)

/-- The written form of an integer spells it. -/
lemma spells_chars (n : Int) : Spells (chars n) n := by
  have all := List.all_eq_true.1 (all_isDigit_digits n.natAbs)
  have value : Nat.ofDigitChars 10 (digits n.natAbs) 0 = n.natAbs := Nat.ofDigitChars_ten_toDigits
  unfold chars
  split
  next negative =>
    have spelled := Spells.minus (digits_ne_nil n.natAbs) all
    rwa [value, Int.ofNat_natAbs_of_nonpos (Int.le_of_lt negative), Int.neg_neg] at spelled
  next natural =>
    have spelled := Spells.digits (digits_ne_nil n.natAbs) all
    rwa [value, Int.natAbs_of_nonneg (Int.not_lt.1 natural)] at spelled

end Decimal

namespace Interval

variable {n : Int} {cs core rest : List Char} {start stop limit : Option Int}

/-- A text spells an end of an interval: a number, or a star if the end is missing. -/
inductive SpellsEnd : List Char → Option Int → Prop where
  | missing : SpellsEnd ['*'] none
  | number {cs : List Char} {n : Int} (spelled : Decimal.Spells cs n) : SpellsEnd cs (some n)

/-- A text with dots or a comma between two other texts. -/
def Joins (first second cs : List Char) : Prop :=
  ∃ separator between, (separator = ['.', '.'] ∨ separator = [',']) ∧
    Text.Pads separator between ∧ cs = first ++ between ++ second

/-- A text spells the ends of an interval, without blank characters around it. -/
inductive SpellsEnds : List Char → Option Int → Option Int → Prop where
  | unbounded : SpellsEnds ['*'] none none
  | exact {cs : List Char} {n : Int} (spelled : Decimal.Spells cs n) :
    SpellsEnds cs (some n) (some n)
  | atLeast {cs blanks : List Char} {n : Int} (spelled : Decimal.Spells cs n)
    (blank : Text.Blanks blanks) : SpellsEnds (cs ++ blanks ++ ['+']) (some n) none
  | atMost {cs blanks : List Char} {n : Int} (spelled : Decimal.Spells cs n)
    (blank : Text.Blanks blanks) : SpellsEnds (cs ++ blanks ++ ['-']) none (some n)
  | between {first second cs : List Char} {start stop : Option Int} (low : SpellsEnd first start)
    (high : SpellsEnd second stop) (joined : Joins first second cs) : SpellsEnds cs start stop

/-- A text spells the ends of an interval; blank characters may stand around them. -/
def IsSpelling (cs : List Char) (start stop : Option Int) : Prop :=
  ∃ core, SpellsEnds core start stop ∧ Text.Pads core cs

/-- A text spells two numbers with dots or a comma between them; blank characters may stand around
them. -/
def SpellsBetween (cs : List Char) (a b : Int) : Prop :=
  ∃ core first second, Decimal.Spells first a ∧ Decimal.Spells second b ∧ Joins first second core ∧
    Text.Pads core cs

/-- The numbers among two ends fit words. -/
def Fit (start stop : Option Int) : Prop :=
  (∀ n ∈ start, Word.holds n = true) ∧ ∀ n ∈ stop, Word.holds n = true

section soundness

lemma append_of_spanNumber (cs : List Char) : cs = (spanNumber cs).1 ++ (spanNumber cs).2 := by
  unfold spanNumber
  split
  next => exact congrArg _ List.takeWhile_append_dropWhile.symm
  next => exact List.takeWhile_append_dropWhile.symm

/-- What is read as an end is spelled in front. -/
lemma spells_of_readEnd? (h : readEnd? cs = some (limit, rest)) :
    ∃ front, cs = front ++ rest ∧ SpellsEnd front limit ∧ ∀ n ∈ limit, Word.holds n = true := by
  unfold readEnd? at h
  split at h
  next =>
    cases h
    exact ⟨['*'], rfl, .missing, by simp⟩
  next =>
    obtain ⟨n, read, eq⟩ := Option.map_eq_some_iff.1 h
    cases eq
    obtain ⟨spelled, fits⟩ := Decimal.word?_eq_some.1 read
    refine ⟨_, append_of_spanNumber cs, .number spelled, fun k mem => ?_⟩
    cases mem
    exact fits

/-- The stop behind dots or a comma reaches to the end of the text. -/
lemma spells_of_readStop? (h : readEnds?.readStop? limit cs = some (start, stop)) :
    limit = start ∧ ∃ blanks second, Text.Blanks blanks ∧ cs = blanks ++ second ∧
      SpellsEnd second stop ∧ ∀ n ∈ stop, Word.holds n = true := by
  unfold readEnds?.readStop? at h
  simp only [Option.bind_eq_bind, Option.bind_eq_some_iff] at h
  obtain ⟨⟨second, rest⟩, read, h⟩ := h
  split at h
  next nothing =>
    cases h
    obtain ⟨front, eq, spelled, fits⟩ := spells_of_readEnd? read
    obtain ⟨blanks, blank, apart⟩ := Text.exists_append_trimLeft cs
    obtain rfl := List.isEmpty_iff.1 nothing
    rw [eq, List.append_nil] at apart
    exact ⟨rfl, blanks, front, blank, apart, spelled, fits⟩
  next => cases h

lemma spells_of_readEnds? (h : readEnds? cs = some (start, stop)) :
    Fit start stop ∧ ∃ core blanks, Text.Blanks blanks ∧ cs = core ++ blanks ∧
      SpellsEnds core start stop := by
  unfold readEnds? at h
  simp only [Option.bind_eq_bind, Option.bind_eq_some_iff] at h
  obtain ⟨⟨first, rest⟩, read, h⟩ := h
  obtain ⟨front, rfl, spelled, fits⟩ := spells_of_readEnd? read
  obtain ⟨blanks, blank, apart⟩ := Text.exists_append_trimLeft rest
  have joined {separator behind : List Char} (known : separator = ['.', '.'] ∨ separator = [','])
      (eq : Text.trimLeft rest = separator ++ behind)
      (h : readEnds?.readStop? first behind = some (start, stop)) :
      Fit start stop ∧ ∃ core blanks, Text.Blanks blanks ∧ front ++ rest = core ++ blanks ∧
        SpellsEnds core start stop := by
    obtain ⟨rfl, blanks', second, blank', rfl, high, fits'⟩ := spells_of_readStop? h
    have between : Text.Pads separator (blanks ++ separator ++ blanks') :=
      ⟨blanks, blanks', blank, blank', rfl⟩
    refine ⟨⟨fits, fits'⟩, _, [], .nil, ?_, .between spelled high ⟨_, _, known, between, rfl⟩⟩
    rw [apart, eq, List.append_nil]
    simp only [List.append_assoc]
  dsimp only at h
  split at h
  next eq =>
    cases h
    rw [eq, List.append_nil] at apart
    obtain rfl := apart
    refine ⟨⟨fits, fits⟩, front, rest, blank, rfl, ?_⟩
    cases spelled with
    | missing => exact .unbounded
    | number spelled => exact .exact spelled
  next eq =>
    simp only [Option.bind_eq_some_iff] at h
    obtain ⟨n, rfl, h⟩ := h
    cases h
    cases spelled with
    | number spelled =>
      refine ⟨⟨fits, by simp⟩, _, [], .nil, ?_, .atLeast spelled blank⟩
      rw [apart, eq, List.append_nil, List.append_assoc]
  next eq =>
    simp only [Option.bind_eq_some_iff] at h
    obtain ⟨n, rfl, h⟩ := h
    cases h
    cases spelled with
    | number spelled =>
      refine ⟨⟨by simp, fits⟩, _, [], .nil, ?_, .atMost spelled blank⟩
      rw [apart, eq, List.append_nil, List.append_assoc]
  next eq => exact joined (.inl rfl) eq h
  next eq => exact joined (.inr rfl) eq h
  next => cases h

end soundness

section completeness

lemma SpellsEnd.isTrimmed (h : SpellsEnd cs limit) : Text.IsTrimmed cs := by
  cases h with
  | missing => exact .singleton (by decide)
  | number spelled => exact .of_visible spelled.ne_nil spelled.visible

lemma SpellsEnds.isTrimmed (h : SpellsEnds cs start stop) : Text.IsTrimmed cs := by
  cases h with
  | unbounded => exact SpellsEnd.missing.isTrimmed
  | exact spelled => exact (SpellsEnd.number spelled).isTrimmed
  | atLeast spelled => exact (SpellsEnd.number spelled).isTrimmed.append (.singleton (by decide))
  | atMost spelled => exact (SpellsEnd.number spelled).isTrimmed.append (.singleton (by decide))
  | between low high joined =>
    obtain ⟨_, _, -, -, rfl⟩ := joined
    exact low.isTrimmed.append high.isTrimmed

lemma spanNumber_append (h : Decimal.Spells cs n) (ends : ∀ d ∈ rest.head?, d.isDigit = false) :
    spanNumber (cs ++ rest) = (cs, rest) := by
  have span {ds : List Char} (digits : ∀ d ∈ ds, d.isDigit = true) :
      (ds ++ rest).takeWhile Char.isDigit = ds ∧ (ds ++ rest).dropWhile Char.isDigit = rest := by
    rw [List.takeWhile_append_of_pos digits, List.dropWhile_append_of_pos digits]
    cases rest <;> simp_all
  cases h with
  | minus _ all => rw [List.cons_append, spanNumber, (span all).1, (span all).2]
  | digits some all =>
    unfold spanNumber
    split
    next ds eq =>
      cases cs with
      | nil => exact absurd rfl some
      | cons d ds =>
        cases eq
        exact absurd (all '-' List.mem_cons_self) (by decide)
    next => rw [(span all).1, (span all).2]

/-- An end that fits is read where it is spelled, if no digit follows it. -/
lemma readEnd?_append (h : SpellsEnd cs limit) (fits : ∀ n ∈ limit, Word.holds n = true)
    (ends : ∀ d ∈ rest.head?, d.isDigit = false) : readEnd? (cs ++ rest) = some (limit, rest) := by
  cases h with
  | missing => rfl
  | @number _ n spelled =>
    unfold readEnd?
    split
    next eq =>
      cases cs with
      | nil => exact absurd rfl spelled.ne_nil
      | cons d ds =>
        cases eq
        exact absurd (spelled.minus_or_isDigit '*' List.mem_cons_self) (by decide)
    next =>
      have read := Decimal.word?_eq_some.2 ⟨spelled, fits n rfl⟩
      rw [spanNumber_append spelled ends]
      simp only [read, Option.map_some]

lemma readEnd?_eq (h : SpellsEnd cs limit) (fits : ∀ n ∈ limit, Word.holds n = true) :
    readEnd? cs = some (limit, []) := by
  have read : readEnd? (cs ++ []) = _ := readEnd?_append h fits (by simp)
  rwa [List.append_nil] at read

/-- An end is read up to the blank characters in front of a sign. -/
lemma readEnd?_before {blanks : List Char} {c : Char} (h : SpellsEnd cs limit)
    (fits : ∀ n ∈ limit, Word.holds n = true) (blank : Text.Blanks blanks)
    (visible : Text.isBlank c = false) (sign : c.isDigit = false) :
    readEnd? (cs ++ (blanks ++ c :: rest)) = some (limit, blanks ++ c :: rest) ∧
      Text.trimLeft (blanks ++ c :: rest) = c :: rest := by
  refine ⟨readEnd?_append h fits fun d first => ?_, Text.trimLeft_append blank ⟨c, rfl, visible⟩⟩
  cases blanks with
  | nil =>
    cases first
    exact sign
  | cons b blanks =>
    cases first
    exact blank.isDigit_eq_false List.mem_cons_self

lemma readStop?_of_spells {blanks : List Char} (blank : Text.Blanks blanks)
    (h : SpellsEnd cs stop) (fits : ∀ n ∈ stop, Word.holds n = true) :
    readEnds?.readStop? start (blanks ++ cs) = some (start, stop) := by
  rw [readEnds?.readStop?, Text.trimLeft_append blank h.isTrimmed.first, readEnd?_eq h fits]
  rfl

/-- Ends that fit are read where they are spelled. -/
lemma readEnds?_of_spells (h : SpellsEnds cs start stop) (fits : Fit start stop) :
    readEnds? cs = some (start, stop) := by
  cases h with
  | unbounded => rfl
  | exact spelled =>
    rw [readEnds?, readEnd?_eq (.number spelled) fits.1]
    rfl
  | @atLeast cs blanks n spelled blank =>
    obtain ⟨front, trim⟩ : readEnd? (cs ++ (blanks ++ ['+'])) = _ ∧ _ :=
      readEnd?_before (.number spelled) fits.1 blank (by decide) (by decide)
    rw [readEnds?, List.append_assoc, front]
    simp only [Option.bind_eq_bind, Option.bind_some, trim]
    rfl
  | @atMost cs blanks n spelled blank =>
    obtain ⟨front, trim⟩ : readEnd? (cs ++ (blanks ++ ['-'])) = _ ∧ _ :=
      readEnd?_before (.number spelled) fits.2 blank (by decide) (by decide)
    rw [readEnds?, List.append_assoc, front]
    simp only [Option.bind_eq_bind, Option.bind_some, trim]
    rfl
  | @between first second _ _ _ low high joined =>
    obtain ⟨_, _, known, ⟨blanks, blanks', blank, blank', rfl⟩, rfl⟩ := joined
    have behind : readEnds?.readStop? start (blanks' ++ second) = some (start, stop) :=
      readStop?_of_spells blank' high fits.2
    simp only [List.append_assoc]
    cases known with
    | inl dots =>
      subst dots
      obtain ⟨front, trim⟩ : readEnd? (first ++ (blanks ++ '.' :: '.' :: (blanks' ++ second))) = _ ∧
        _ := readEnd?_before low fits.1 blank (by decide) (by decide)
      show readEnds? (first ++ (blanks ++ '.' :: '.' :: (blanks' ++ second))) = some (start, stop)
      rw [readEnds?, front]
      simp only [Option.bind_eq_bind, Option.bind_some, trim]
      exact behind
    | inr comma =>
      subst comma
      obtain ⟨front, trim⟩ : readEnd? (first ++ (blanks ++ ',' :: (blanks' ++ second))) = _ ∧ _ :=
        readEnd?_before low fits.1 blank (by decide) (by decide)
      show readEnds? (first ++ (blanks ++ ',' :: (blanks' ++ second))) = some (start, stop)
      rw [readEnds?, front]
      simp only [Option.bind_eq_bind, Option.bind_some, trim]
      exact behind

end completeness

/-- The ends that are read are those that the text spells, if they are words. -/
theorem readEnds?_trim_eq_some : readEnds? (Text.trim cs) = some (start, stop) ↔
    IsSpelling cs start stop ∧ Fit start stop := by
  constructor
  · intro read
    obtain ⟨fits, core, blanks, blank, eq, spelled⟩ := spells_of_readEnds? read
    obtain ⟨before, after, front, back, pads⟩ := Text.pads_trim cs
    refine ⟨⟨core, spelled, before, blanks ++ after, front, ?_, ?_⟩, fits⟩
    · exact List.forall_mem_append.2 ⟨blank, back⟩
    · rw [pads, eq]
      simp only [List.append_assoc]
  · rintro ⟨⟨core, spelled, pads⟩, fits⟩
    rw [Text.trim_eq_of_pads pads spelled.isTrimmed]
    exact readEnds?_of_spells spelled fits

end Interval

end SpatialGrammar
