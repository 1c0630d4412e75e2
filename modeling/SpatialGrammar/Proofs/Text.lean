import Mathlib.Data.List.TakeWhile
import SpatialGrammar.Text.Blank

/-!
# Blanks around texts, and cut texts

Main statements: `trim_eq_of_pads`, trimming takes away the blank characters around a text,
`fields_append`, where the first field of a text ends, and `cut?_eq_some` and `cutLast?_eq_some`,
where its first and its last separator are.
-/

namespace SpatialGrammar.Text

variable {c : Char} {cs core before after : List Char} {separates : Char → Bool}

lemma toNat_of_isDigit (h : c.isDigit = true) : 0x30 ≤ c.toNat ∧ c.toNat ≤ 0x39 := by
  simp only [Char.isDigit, Bool.and_eq_true, decide_eq_true_eq, ge_iff_le,
    UInt32.le_iff_toNat_le] at h
  exact h

/-- The printable ASCII characters are not blank. -/
lemma isBlank_eq_false (h : 0x21 ≤ c.toNat ∧ c.toNat ≤ 0x7E) : isBlank c = false := by
  simp only [isBlank, Bool.or_eq_false_iff, Bool.and_eq_false_iff, beq_eq_false_iff_ne,
    decide_eq_false_iff_not]
  omega

lemma trimLeft_cons (visible : isBlank c = false) : trimLeft (c :: cs) = c :: cs :=
  List.dropWhile_cons_of_neg (by simp [visible])

section blanks

/-- A text with nothing but blank characters. -/
def Blanks (cs : List Char) : Prop := ∀ c ∈ cs, isBlank c = true

lemma Blanks.nil : Blanks [] := List.forall_mem_nil _

/-- A text with blank characters around it. -/
def Pads (core cs : List Char) : Prop :=
  ∃ before after, Blanks before ∧ Blanks after ∧ cs = before ++ core ++ after

/-- A text that neither begins nor ends with a blank character. -/
structure IsTrimmed (cs : List Char) : Prop where
  first : ∃ c ∈ cs.head?, isBlank c = false
  last : ∃ c ∈ cs.getLast?, isBlank c = false

lemma IsTrimmed.of_visible (ne : cs ≠ []) (visible : ∀ c ∈ cs, isBlank c = false) :
    IsTrimmed cs where
  first := ⟨cs.head ne, List.head?_eq_some_head ne, visible _ (List.head_mem ne)⟩
  last := ⟨cs.getLast ne, List.getLast?_eq_some_getLast ne, visible _ (List.getLast_mem ne)⟩

lemma IsTrimmed.singleton {c : Char} (visible : isBlank c = false) : IsTrimmed [c] :=
  .of_visible (List.cons_ne_nil _ _) (List.forall_mem_singleton.2 visible)

lemma IsTrimmed.isEmpty_eq_false (h : IsTrimmed cs) : cs.isEmpty = false := by
  obtain ⟨c, first, -⟩ := h.first
  obtain ⟨rest, rfl⟩ := List.head?_eq_some_iff.1 first
  rfl

/-- What stands between trimmed texts does not matter. -/
lemma IsTrimmed.append {between : List Char} (h : IsTrimmed before) (h' : IsTrimmed after) :
    IsTrimmed (before ++ between ++ after) := by
  obtain ⟨c, first, visible⟩ := h.first
  obtain ⟨d, last, visible'⟩ := h'.last
  refine ⟨⟨c, ?_, visible⟩, d, ?_, visible'⟩
  · rw [List.append_assoc, List.head?_append, first, Option.some_or, Option.mem_some_iff]
  · rw [List.getLast?_append, last, Option.some_or, Option.mem_some_iff]

/-- No digit is blank. -/
lemma Blanks.isDigit_eq_false (h : Blanks cs) (mem : c ∈ cs) : c.isDigit = false := by
  cases digit : c.isDigit with
  | false => rfl
  | true =>
    have bounds := toNat_of_isDigit digit
    have visible : isBlank c = false := isBlank_eq_false (by omega)
    rw [h c mem] at visible
    cases visible

lemma Blanks.reverse (h : Blanks cs) : Blanks cs.reverse :=
  fun c mem => h c (List.mem_reverse.1 mem)

lemma trimLeft_append (blank : Blanks before) (visible : ∃ c ∈ cs.head?, isBlank c = false) :
    trimLeft (before ++ cs) = cs := by
  obtain ⟨c, first, visible⟩ := visible
  obtain ⟨rest, rfl⟩ := List.head?_eq_some_iff.1 first
  rw [trimLeft, List.dropWhile_append_of_pos blank]
  exact trimLeft_cons visible

lemma trimRight_append (blank : Blanks after) (visible : ∃ c ∈ cs.getLast?, isBlank c = false) :
    trimRight (cs ++ after) = cs := by
  rw [← List.head?_reverse] at visible
  have dropped : trimLeft (after.reverse ++ cs.reverse) = cs.reverse :=
    trimLeft_append blank.reverse visible
  rw [trimRight, List.reverse_append]
  exact (congrArg List.reverse dropped).trans (List.reverse_reverse cs)

/-- Trimming takes away the blank characters around a text. -/
lemma trim_eq_of_pads (h : Pads core cs) (trimmed : IsTrimmed core) : trim cs = core := by
  obtain ⟨before, after, front, back, rfl⟩ := h
  have visible : ∃ c ∈ (core ++ after).head?, isBlank c = false := by
    obtain ⟨c, first, visible⟩ := trimmed.first
    exact ⟨c, by rw [List.head?_append, first, Option.some_or, Option.mem_some_iff], visible⟩
  rw [trim, List.append_assoc, trimLeft_append front visible]
  exact trimRight_append back trimmed.last

lemma IsTrimmed.trim_eq (h : IsTrimmed cs) : trim cs = cs :=
  trim_eq_of_pads ⟨[], [], .nil, .nil, (List.append_nil cs).symm⟩ h

lemma exists_append_trimLeft (cs : List Char) :
    ∃ before, Blanks before ∧ cs = before ++ trimLeft cs :=
  ⟨cs.takeWhile isBlank, fun _ => List.mem_takeWhile_imp, List.takeWhile_append_dropWhile.symm⟩

lemma exists_trimRight_append (cs : List Char) :
    ∃ after, Blanks after ∧ cs = trimRight cs ++ after := by
  obtain ⟨before, blank, eq⟩ := exists_append_trimLeft cs.reverse
  refine ⟨before.reverse, blank.reverse, ?_⟩
  calc
    cs = (before ++ trimLeft cs.reverse).reverse := by rw [← eq, List.reverse_reverse]
    _ = trimRight cs ++ before.reverse := List.reverse_append

lemma pads_trim (cs : List Char) : Pads (trim cs) cs := by
  obtain ⟨before, front, eq⟩ := exists_append_trimLeft cs
  obtain ⟨after, back, eq'⟩ := exists_trimRight_append (trimLeft cs)
  refine ⟨before, after, front, back, ?_⟩
  rw [List.append_assoc, trim, ← eq', ← eq]

end blanks

section fields

lemma fields_of_inside (inside : ∀ d ∈ cs, separates d = false) : fields separates cs = [cs] := by
  induction cs with
  | nil => rfl
  | cons d cs ih =>
    obtain ⟨first, inside⟩ := List.forall_mem_cons.1 inside
    rw [fields, first, ih inside]
    rfl

/-- The first field ends at the first separator. -/
lemma fields_append (inside : ∀ d ∈ before, separates d = false) (sep : separates c = true) :
    fields separates (before ++ c :: after) = before :: fields separates after := by
  induction before with
  | nil => rw [List.nil_append, fields, if_pos sep]
  | cons d before ih =>
    obtain ⟨first, inside⟩ := List.forall_mem_cons.1 inside
    rw [List.cons_append, fields, first, ih inside]
    rfl

lemma trim_cons (blank : isBlank c = true) : trim (c :: cs) = trim cs := by
  rw [trim, trimLeft, List.dropWhile_cons_of_pos blank]
  rfl

/-- A blank character in front does not change the trimmed fields. -/
lemma map_trim_fields_cons (blank : isBlank c = true) (inside : separates c = false) :
    (fields separates (c :: cs)).map trim = (fields separates cs).map trim := by
  rw [fields, inside, if_neg Bool.false_ne_true]
  cases eq : fields separates cs with
  | nil => exact absurd eq (fields_ne_nil _ _)
  | cons piece pieces => exact congrArg (· :: pieces.map trim) (trim_cons blank)

/-- Trimmed pieces are the fields of their list, with a blank character behind each separator. -/
lemma map_trim_fields_intercalate {b : Char} {pieces : List (List Char)} (ne : pieces ≠ [])
    (sep : separates c = true) (blank : isBlank b = true) (plain : separates b = false)
    (inside : ∀ p ∈ pieces, ∀ d ∈ p, separates d = false) (trimmed : ∀ p ∈ pieces, IsTrimmed p) :
    (fields separates ([c, b].intercalate pieces)).map trim = pieces := by
  induction pieces with
  | nil => exact absurd rfl ne
  | cons p pieces ih =>
    obtain ⟨first, inside⟩ := List.forall_mem_cons.1 inside
    obtain ⟨ends, trimmed⟩ := List.forall_mem_cons.1 trimmed
    cases pieces with
    | nil =>
      rw [List.intercalate_singleton, fields_of_inside first, List.map_singleton, ends.trim_eq]
    | cons q pieces =>
      rw [List.intercalate_cons_cons, List.append_assoc, List.cons_append, fields_append first sep,
        List.map_cons, List.singleton_append, map_trim_fields_cons blank plain, ends.trim_eq,
        ih (List.cons_ne_nil q pieces) inside trimmed]

end fields

/-- A text is cut at the first separator. -/
lemma cut?_eq_some : cut? separates cs = some (before, after) ↔
    ∃ c, cs = before ++ c :: after ∧ separates c = true ∧ ∀ d ∈ before, separates d = false := by
  induction cs generalizing before with
  | nil => simp [cut?]
  | cons d cs ih =>
    unfold cut?
    split
    next sep =>
      constructor
      · intro h
        cases h
        exact ⟨d, rfl, sep, List.forall_mem_nil _⟩
      · rintro ⟨c, eq, -, inside⟩
        cases before with
        | nil =>
          cases eq
          rfl
        | cons e before =>
          cases eq
          simp [inside] at sep
    next sep =>
      rw [Option.map_eq_some_iff]
      constructor
      · rintro ⟨⟨front, back⟩, h, eq⟩
        cases eq
        obtain ⟨c, rfl, found, inside⟩ := ih.1 h
        exact ⟨c, rfl, found, List.forall_mem_cons.2 ⟨by simpa using sep, inside⟩⟩
      · rintro ⟨c, eq, found, inside⟩
        cases before with
        | nil =>
          cases eq
          exact absurd found sep
        | cons e before =>
          cases eq
          exact ⟨(before, after), ih.2 ⟨c, rfl, found, (List.forall_mem_cons.1 inside).2⟩, rfl⟩

lemma cut?_eq_none (inside : ∀ d ∈ cs, separates d = false) : cut? separates cs = none := by
  rw [Option.eq_none_iff_forall_ne_some]
  rintro ⟨before, after⟩ found
  obtain ⟨c, rfl, sep, -⟩ := cut?_eq_some.1 found
  rw [inside c (by simp)] at sep
  cases sep

/-- A text is cut at the last separator. -/
lemma cutLast?_eq_some : cutLast? separates cs = some (before, after) ↔
    ∃ c, cs = before ++ c :: after ∧ separates c = true ∧ ∀ d ∈ after, separates d = false := by
  rw [cutLast?, Option.map_eq_some_iff]
  constructor
  · rintro ⟨⟨front, back⟩, h, eq⟩
    cases eq
    obtain ⟨c, eq, found, inside⟩ := cut?_eq_some.1 h
    refine ⟨c, ?_, found, fun d mem => inside d (List.mem_reverse.1 mem)⟩
    simpa using congrArg List.reverse eq
  · rintro ⟨c, rfl, found, inside⟩
    refine ⟨(after.reverse, before.reverse), cut?_eq_some.2 ⟨c, by simp, found, ?_⟩, by simp⟩
    exact fun d mem => inside d (List.mem_reverse.1 mem)

end SpatialGrammar.Text
