import SpatialGrammar.Proofs.Plane.Spelling

/-!
# Reading intervals

Main statements: `ofText_text`, an interval whose ends are words is read back from its written
form, `holds_of_ofText`, the ends of an interval that has been read are words, and `reading_exact`,
which texts are read as which intervals, and why the other ones are refused.
-/

namespace SpatialGrammar.Interval

variable {r : Interval} {c : Char} {cs : List Char} {start stop : Option Int} {a b : Int}

lemma fit_iff : Fit r.start r.stop ↔ ∀ n ∈ r.ends, Word.holds n = true := by
  simp only [Fit, ends, List.forall_mem_append, Option.mem_toList, Option.mem_def]

section written

lemma sign_or_isDigit (mem : c ∈ r.chars) : c ∈ ['*', '.', '+', '-'] ∨ c.isDigit = true := by
  have number {n : Int} (mem : c ∈ Decimal.chars n) :
      c ∈ ['*', '.', '+', '-'] ∨ c.isDigit = true := by
    refine ((Decimal.spells_chars n).minus_or_isDigit c mem).imp_left ?_
    rintro rfl
    decide
  unfold chars at mem
  split at mem
  · exact .inl (by simp_all)
  · split at mem
    · exact number mem
    · simp only [List.mem_append] at mem
      obtain (mem | mem) | mem := mem
      · exact number mem
      · exact .inl (by simp_all)
      · exact number mem
  all_goals
    obtain mem | mem := List.mem_append.1 mem
    · exact number mem
    · exact .inl (by simp_all)

/-- The written form of an interval has no blanks and no closing bracket. -/
lemma visible_of_mem_chars (mem : c ∈ r.chars) : Text.isBlank c = false ∧ c ≠ ']' := by
  obtain sign | digit := sign_or_isDigit mem
  · simp only [List.mem_cons, List.not_mem_nil, or_false] at sign
    rcases sign with rfl | rfl | rfl | rfl <;> decide
  · have bounds := Text.toNat_of_isDigit digit
    refine ⟨Text.isBlank_eq_false (by omega), ?_⟩
    rintro rfl
    exact absurd digit (by decide)

/-- The written form of an interval spells its ends. -/
lemma spells_chars (r : Interval) : SpellsEnds r.chars r.start r.stop := by
  obtain ⟨start, stop, ordered⟩ := r
  cases start with
  | none =>
    cases stop with
    | none => exact .unbounded
    | some b =>
      have spelled := SpellsEnds.atMost (Decimal.spells_chars b) .nil
      rw [List.append_nil] at spelled
      exact spelled
  | some a =>
    cases stop with
    | none =>
      have spelled := SpellsEnds.atLeast (Decimal.spells_chars a) .nil
      rw [List.append_nil] at spelled
      exact spelled
    | some b =>
      unfold chars
      dsimp only
      split
      next same =>
        subst same
        exact .exact (Decimal.spells_chars a)
      next =>
        have dots : Text.Pads ['.', '.'] ['.', '.'] := ⟨[], [], .nil, .nil, rfl⟩
        exact .between (.number (Decimal.spells_chars a)) (.number (Decimal.spells_chars b))
          ⟨_, _, .inl rfl, dots, rfl⟩

end written

section ends

lemma ofEnds_eq_ok : ofEnds start stop = .ok r ↔ r.start = start ∧ r.stop = stop := by
  obtain ⟨low, high, ordered⟩ := r
  cases start with
  | none => cases stop <;> simp [ofEnds, unbounded, atMost, eq_comm]
  | some a =>
    cases stop with
    | none => simp [ofEnds, atLeast, eq_comm]
    | some b =>
      simp only [ofEnds]
      split
      next => simp [eq_comm]
      next reversed =>
        simp only [reduceCtorEq, false_iff, not_and]
        rintro rfl rfl
        exact reversed (ordered a rfl b rfl)

lemma ofEnds_eq_error {e : IntervalError} : ofEnds start stop = .error e ↔
    ∃ a b, start = some a ∧ stop = some b ∧ b < a ∧ e = .reversed a b := by
  cases start with
  | none => cases stop <;> simp [ofEnds]
  | some a =>
    cases stop with
    | none => simp [ofEnds]
    | some b =>
      simp only [ofEnds, Option.some.injEq, exists_and_left, exists_eq_left']
      split
      next ordered => simp [Int.not_lt.2 ordered]
      next reversed => simp [Int.not_le.1 reversed, eq_comm]

end ends

section reading

variable {s : String}

lemma ofText_of_spelling (spelled : IsSpelling s.toList start stop) (fits : Fit start stop) :
    ofText s = ofEnds start stop := by
  rw [ofText, ofChars, readEnds?_trim_eq_some.2 ⟨spelled, fits⟩]

/-- A text is read as the ends that it spells, or it spells none that are words. -/
lemma ofText_cases (s : String) :
    (∃ start stop, IsSpelling s.toList start stop ∧ Fit start stop ∧
      ofText s = ofEnds start stop) ∨
    (∀ start stop, IsSpelling s.toList start stop → ¬ Fit start stop) ∧
      ofText s = .error (.malformed s) := by
  cases read : readEnds? (Text.trim s.toList) with
  | some ends =>
    obtain ⟨spelled, fits⟩ := readEnds?_trim_eq_some.1 read
    exact .inl ⟨_, _, spelled, fits, ofText_of_spelling spelled fits⟩
  | none =>
    refine .inr ⟨fun start stop spelled fits => ?_, ?_⟩
    · rw [readEnds?_trim_eq_some.2 ⟨spelled, fits⟩] at read
      cases read
    · rw [ofText, ofChars, read, String.ofList_toList]

lemma ofText_eq_ok : ofText s = .ok r ↔
    IsSpelling s.toList r.start r.stop ∧ ∀ n ∈ r.ends, Word.holds n = true := by
  rw [← fit_iff]
  constructor
  · intro h
    obtain ⟨start, stop, spelled, fits, read⟩ | ⟨-, read⟩ := ofText_cases s
    · obtain ⟨rfl, rfl⟩ := ofEnds_eq_ok.1 (read.symm.trans h)
      exact ⟨spelled, fits⟩
    · cases read.symm.trans h
  · rintro ⟨spelled, fits⟩
    exact (ofText_of_spelling spelled fits).trans (ofEnds_eq_ok.2 ⟨rfl, rfl⟩)

lemma ofText_eq_reversed : ofText s = .error (.reversed a b) ↔
    SpellsBetween s.toList a b ∧ Word.holds a = true ∧ Word.holds b = true ∧ b < a := by
  constructor
  · intro h
    obtain ⟨start, stop, ⟨core, spelled, pads⟩, fits, read⟩ | ⟨-, read⟩ := ofText_cases s
    · obtain ⟨a, b, rfl, rfl, lt, eq⟩ := ofEnds_eq_error.1 (read.symm.trans h)
      cases eq
      refine ⟨?_, fits.1 a rfl, fits.2 b rfl, lt⟩
      cases spelled with
      | exact => exact absurd lt (Int.lt_irrefl _)
      | between low high joined =>
        cases low with
        | number low =>
          cases high with
          | number high => exact ⟨core, _, _, low, high, joined, pads⟩
    · cases read.symm.trans h
  · rintro ⟨⟨core, first, second, low, high, joined, pads⟩, fits, fits', lt⟩
    have spelled : IsSpelling s.toList (some a) (some b) :=
      ⟨core, .between (.number low) (.number high) joined, pads⟩
    have fit : Fit (some a) (some b) :=
      ⟨fun n mem => Option.mem_some_iff.1 mem ▸ fits, fun n mem => Option.mem_some_iff.1 mem ▸ fits'⟩
    exact (ofText_of_spelling spelled fit).trans (ofEnds_eq_error.2 ⟨a, b, rfl, rfl, lt, rfl⟩)

lemma ofText_eq_malformed {t : String} : ofText s = .error (.malformed t) ↔
    t = s ∧ ∀ start stop, IsSpelling s.toList start stop → ¬ Fit start stop := by
  obtain ⟨start, stop, spelled, fits, read⟩ | ⟨none_fit, read⟩ := ofText_cases s
  · rw [read, ofEnds_eq_error]
    constructor
    · rintro ⟨_, _, -, -, -, eq⟩
      cases eq
    · exact fun ⟨_, none_fit⟩ => absurd fits (none_fit start stop spelled)
  · rw [read, Except.error.injEq, IntervalError.malformed.injEq]
    exact ⟨fun eq => ⟨eq.symm, none_fit⟩, fun h => h.1.symm⟩

theorem ofText_text (fits : ∀ n ∈ r.ends, Word.holds n = true) : ofText r.text = .ok r := by
  refine ofText_eq_ok.2 ⟨⟨r.chars, spells_chars r, [], [], .nil, .nil, ?_⟩, fits⟩
  rw [text, String.toList_ofList, List.append_nil, List.nil_append]

theorem holds_of_ofText (h : ofText s = .ok r) : ∀ n ∈ r.ends, Word.holds n = true :=
  (ofText_eq_ok.1 h).2

end reading

/-- An interval whose ends are words is read back from its written form. Any text is read as the
interval whose ends it spells if these are words and in order, which is then read back from its
written form; it is refused as reversed if it spells two words of which the first one is greater;
and otherwise it spells no ends that are words, and is refused as malformed. -/
theorem reading_exact :
    (∀ r : Interval, (∀ n ∈ r.ends, Word.holds n = true) → ofText r.text = .ok r) ∧
    ∀ s : String,
      (∀ r : Interval, ofText s = .ok r ↔
        IsSpelling s.toList r.start r.stop ∧ ∀ n ∈ r.ends, Word.holds n = true) ∧
      (∀ r : Interval, ofText s = .ok r → ofText r.text = .ok r) ∧
      (∀ a b, ofText s = .error (.reversed a b) ↔
        SpellsBetween s.toList a b ∧ Word.holds a = true ∧ Word.holds b = true ∧ b < a) ∧
      ∀ t, ofText s = .error (.malformed t) ↔
        t = s ∧ ∀ start stop, IsSpelling s.toList start stop → ¬ Fit start stop := by
  refine ⟨fun r => ofText_text, fun s => ⟨fun r => ofText_eq_ok, fun r h => ?_,
    fun a b => ofText_eq_reversed, fun t => ofText_eq_malformed⟩⟩
  exact ofText_text (holds_of_ofText h)

/-- The numbers up to the least word end in two signs; blanks and zeros in front of a number are lost
when an interval is written again; two numbers in the wrong order are no interval. -/
theorem reading_exact_signs :
    let r := atMost (-9223372036854775808)
    let s : Interval := ⟨some (-5), some 7, by decide⟩
    (∀ n ∈ r.ends, Word.holds n = true) ∧ r.text = "-9223372036854775808-" ∧
      ofText r.text = .ok r ∧
      ofText "-5 .. 007" = .ok s ∧ s.text = "-5..7" ∧ ofText s.text = .ok s ∧
      ofText " 5 , -3" = .error (.reversed 5 (-3)) ∧ SpellsBetween " 5 , -3".toList 5 (-3) := by
  intro r s
  obtain ⟨again, read⟩ := reading_exact
  have fits : ∀ n ∈ r.ends, Word.holds n = true := by decide
  have loose : ofText "-5 .. 007" = .ok s := by cbv
  have wrong : ofText " 5 , -3" = .error (.reversed 5 (-3)) := by cbv
  obtain ⟨-, close, -⟩ := read "-5 .. 007"
  obtain ⟨-, -, reversed, -⟩ := read " 5 , -3"
  exact ⟨fits, by cbv, again r fits, loose, by cbv, close s loose, wrong,
    ((reversed 5 (-3)).1 wrong).1⟩

end SpatialGrammar.Interval
