import SpatialGrammar.Proofs.Constraint.Adjacency
import SpatialGrammar.Proofs.Plane.Notation

/-!
# Lists of sides

A list of sides is written entry by entry, in any order and in several forms. Main statements:
`SideMap.readEntry_of_writes`, an entry is read back from each of its forms, `SideMap.foldl_set`,
the entries of a map make up the map in any order, and `SideMap.ofText_written`, a map is read back
from each list of its entries.
-/

namespace SpatialGrammar.SideMap

variable {m : SideMap} {s : Side} {r : Interval} {separator : Char} {piece : String}
variable {entry : Side × Interval} {entries : List (Side × Interval)} {pieces : List String}

/-- The forms of an entry: the name of the side and its interval, with an equals sign, a colon or a
space between them, or only the name if the interval is zero. -/
inductive WritesEntry : Side × Interval → String → Prop where
  | limited {s : Side} {r : Interval} {separator : Char} (known : separator ∈ ['=', ':', ' ']) :
    WritesEntry (s, r) (s.name ++ String.singleton separator ++ r.text)
  | bare {s : Side} : WritesEntry (s, Interval.exact 0) s.name

section entries

/-- The characters that divide a list of sides, apart from spaces. -/
def divides (c : Char) : Bool := c == ',' || c == '=' || c == ':'

lemma name_plain (s : Side) : ∀ c ∈ s.name.toList, divides c = false ∧ Text.isBlank c = false := by
  have all : (s.name.toList.all fun c => !divides c && !Text.isBlank c) = true := by
    cases s <;> decide +kernel
  simpa using all

lemma name_isTrimmed (s : Side) : Text.IsTrimmed s.name.toList :=
  .of_visible (by cases s <;> decide +kernel) fun c mem => (name_plain s c mem).2

lemma chars_plain (r : Interval) : ∀ c ∈ r.chars, divides c = false := by
  intro c mem
  cases Interval.sign_or_isDigit mem with
  | inl sign =>
    simp only [List.mem_cons, List.not_mem_nil, or_false] at sign
    rcases sign with rfl | rfl | rfl | rfl <;> rfl
  | inr digit =>
    have apart {d : Char} (other : d.isDigit = false) : (c == d) = false := by
      rw [beq_eq_false_iff_ne]
      rintro rfl
      rw [digit] at other
      cases other
    rw [divides, apart (by decide), apart (by decide), apart (by decide)]
    rfl

lemma toList_limited (s : Side) (separator : Char) (r : Interval) :
    (s.name ++ String.singleton separator ++ r.text).toList =
      s.name.toList ++ separator :: r.chars := by
  rw [String.toList_append, String.toList_append, String.toList_singleton, Interval.text,
    String.toList_ofList, List.append_assoc, List.singleton_append]

lemma WritesEntry.isTrimmed (h : WritesEntry entry piece) : Text.IsTrimmed piece.toList := by
  cases h with
  | @limited s r separator known =>
    rw [toList_limited, ← List.singleton_append, ← List.append_assoc]
    exact (name_isTrimmed s).append (Interval.spells_chars r).isTrimmed
  | @bare s => exact name_isTrimmed s

/-- No entry has a comma in it. -/
lemma WritesEntry.inside (h : WritesEntry entry piece) :
    ∀ c ∈ piece.toList, (c == ',') = false := by
  have plain {c : Char} (h : divides c = false) : (c == ',') = false := by
    simp only [divides, Bool.or_eq_false_iff] at h
    exact h.1.1
  cases h with
  | @limited s r separator known =>
    have signs : ∀ d ∈ ['=', ':', ' '], (d == ',') = false := by simp
    rw [toList_limited, List.forall_mem_append, List.forall_mem_cons]
    exact ⟨fun c mem => plain (name_plain s c mem).1, signs separator known,
      fun c mem => plain (chars_plain r c mem)⟩
  | @bare s => exact fun c mem => plain (name_plain s c mem).1

end entries

section reading

lemma readRange_chars (fits : ∀ n ∈ r.ends, Word.holds n = true) :
    readEntry.readRange r.chars = .ok r := by
  have read := Interval.ofText_text fits
  rw [Interval.ofText, Interval.text, String.toList_ofList] at read
  rw [readEntry.readRange, (Interval.spells_chars r).isTrimmed.trim_eq, read]
  rfl

lemma not_key_of_plain {c : Char} (h : divides c = false) : (c == '=' || c == ':') = false := by
  simp only [divides, Bool.or_eq_false_iff] at h ⊢
  exact ⟨h.1.2, h.2⟩

/-- The name of a side ends at an equals sign or a colon, and otherwise at the space. -/
lemma cut?_limited (s : Side) (r : Interval) (known : separator ∈ ['=', ':', ' ']) :
    let cs := s.name.toList ++ separator :: r.chars
    Text.cut? (fun c => c == '=' || c == ':') cs = some (s.name.toList, r.chars) ∨
      Text.cut? (fun c => c == '=' || c == ':') cs = none ∧
        Text.cut? Text.isBlank cs = some (s.name.toList, r.chars) := by
  have name := fun c mem => not_key_of_plain (name_plain s c mem).1
  have signs : ∀ c ∈ ['=', ':', ' '], (c == '=' || c == ':') = true ∨ c = ' ' := by simp
  intro cs
  cases signs separator known with
  | inl key => exact .inl (Text.cut?_eq_some.2 ⟨separator, rfl, key, name⟩)
  | inr space =>
    subst space
    refine .inr ⟨Text.cut?_eq_none ?_, Text.cut?_eq_some.2 ⟨' ', rfl, by decide, ?_⟩⟩
    · refine List.forall_mem_append.2 ⟨name, List.forall_mem_cons.2 ⟨rfl, fun c mem => ?_⟩⟩
      exact not_key_of_plain (chars_plain r c mem)
    · exact fun c mem => (name_plain s c mem).2

/-- An entry is read back from each of its forms. -/
lemma readEntry_of_writes (h : WritesEntry entry piece)
    (fits : ∀ n ∈ entry.2.ends, Word.holds n = true) : readEntry piece.toList = .ok entry := by
  have word (s : Side) : Side.ofText? (String.ofList (Text.trim s.name.toList)) = some s := by
    cases s <;> decide +kernel
  cases h with
  | @limited s r separator known =>
    have limit := readRange_chars fits
    rw [toList_limited]
    unfold readEntry
    obtain cut | ⟨uncut, cut⟩ := cut?_limited s r known
    · simp only [cut, limit, bind, Except.bind, pure, Except.pure, word]
    · simp only [uncut, cut, limit, bind, Except.bind, pure, Except.pure, word]
  | @bare s =>
    have uncut : Text.cut? (fun c => c == '=' || c == ':') s.name.toList = none :=
      Text.cut?_eq_none fun c mem => not_key_of_plain (name_plain s c mem).1
    have uncut' : Text.cut? Text.isBlank s.name.toList = none :=
      Text.cut?_eq_none fun c mem => (name_plain s c mem).2
    unfold readEntry
    simp only [uncut, uncut', bind, Except.bind, pure, Except.pure, word]

/-- The entries are read one by one. -/
lemma readEntries_of_writes (written : List.Forall₂ WritesEntry entries pieces)
    (fits : ∀ e ∈ entries, ∀ n ∈ e.2.ends, Word.holds n = true) (m : SideMap) :
    readEntries m (pieces.map String.toList) = .ok (entries.foldl (fun m e => m.set e.1 e.2) m) := by
  induction written generalizing m with
  | nil => rfl
  | cons first _ ih =>
    obtain ⟨fit, fits⟩ := List.forall_mem_cons.1 fits
    rw [List.map_cons, readEntries, readEntry_of_writes first fit]
    exact ih fits _

/-- The fields of a list of sides are its entries. -/
lemma fields_of_writes (written : List.Forall₂ WritesEntry entries pieces) :
    ((Text.fields (· == ',') (String.intercalate ", " pieces).toList).map Text.trim).filter
      (fun e => !e.isEmpty) = pieces.map String.toList := by
  have each : ∀ p ∈ pieces.map String.toList, (∀ c ∈ p, (c == ',') = false) ∧
      Text.IsTrimmed p := by
    induction written with
    | nil => nofun
    | cons first _ ih => exact List.forall_mem_cons.2 ⟨⟨first.inside, first.isTrimmed⟩, ih⟩
  rw [String.toList_intercalate]
  by_cases none : pieces.map String.toList = []
  · rw [none]
    rfl
  · have fields : (Text.fields (· == ',') ([',', ' '].intercalate (pieces.map String.toList))).map
        Text.trim = pieces.map String.toList :=
      Text.map_trim_fields_intercalate none rfl (by decide) rfl (fun p mem => (each p mem).1)
        fun p mem => (each p mem).2
    rw [show ", ".toList = [',', ' '] from rfl, fields, List.filter_eq_self]
    intro p mem
    rw [(each p mem).2.isEmpty_eq_false]
    rfl

end reading

section maps

lemma nodup_toList (m : SideMap) : (m.toList.map (·.1)).Nodup := by
  have all : Side.all.Pairwise (· ≠ ·) := by decide
  rw [List.Nodup, List.pairwise_map, toList, List.pairwise_filterMap]
  refine all.imp fun {s s'} ne entry found entry' found' => ?_
  obtain ⟨_, -, rfl⟩ := Option.map_eq_some_iff.1 found
  obtain ⟨_, -, rfl⟩ := Option.map_eq_some_iff.1 found'
  exact ne

lemma get?_foldl_set (nodup : (entries.map (·.1)).Nodup) (m : SideMap) :
    (entries.foldl (fun m e => m.set e.1 e.2) m).get? s = some r ↔
      (s, r) ∈ entries ∨ s ∉ entries.map (·.1) ∧ m.get? s = some r := by
  induction entries generalizing m with
  | nil => simp
  | cons e entries ih =>
    obtain ⟨s', r'⟩ := e
    obtain ⟨other, nodup⟩ := List.nodup_cons.1 nodup
    rw [List.foldl_cons, ih nodup, get?_set, List.mem_cons, List.map_cons, List.mem_cons]
    by_cases here : s = s'
    · subst here
      have absent : (s, r) ∉ entries := fun mem => other (List.mem_map.2 ⟨_, mem, rfl⟩)
      simp [absent, other, eq_comm]
    · simp [here]

lemma eq_of_get? {m' : SideMap} (h : ∀ s, m.get? s = m'.get? s) : m = m' := by
  obtain ⟨right, top, left, bottom⟩ := m
  obtain rfl : right = m'.right := h .right
  obtain rfl : top = m'.top := h .top
  obtain rfl : left = m'.left := h .left
  obtain rfl : bottom = m'.bottom := h .bottom
  rfl

/-- The entries of a map make up the map in any order. -/
lemma foldl_set (perm : entries.Perm m.toList) :
    entries.foldl (fun m e => m.set e.1 e.2) {} = m := by
  have nodup : (entries.map (·.1)).Nodup := (perm.map _).nodup_iff.2 m.nodup_toList
  refine eq_of_get? fun s => Option.ext fun r => ?_
  have nothing : get? {} s ≠ some r := by cases s <;> nofun
  rw [get?_foldl_set nodup, perm.mem_iff, mem_toList]
  exact or_iff_left fun h => nothing h.2

end maps

lemma forall₂_text (m : SideMap) : List.Forall₂ WritesEntry m.toList
    (m.toList.map fun (s, r) => s.name ++ "=" ++ r.text) := by
  rw [List.forall₂_map_right_iff, List.forall₂_same]
  intro e mem
  exact .limited List.mem_cons_self

/-- Intervals for sides are read back from each list of their entries if their ends are words, in
whatever order the entries come and whichever form each of them has. The list that is shown in
messages is one of these. -/
theorem ofText_written (m : SideMap)
    (fits : ∀ s r, m.get? s = some r → ∀ n ∈ r.ends, Word.holds n = true) :
    (∀ entries pieces, entries.Perm m.toList → List.Forall₂ WritesEntry entries pieces →
      ofText (String.intercalate ", " pieces) = .ok m) ∧
    ofText m.text = .ok m := by
  have all : ∀ entries pieces, entries.Perm m.toList → List.Forall₂ WritesEntry entries pieces →
      ofText (String.intercalate ", " pieces) = .ok m := by
    intro entries pieces perm written
    have fit : ∀ e ∈ entries, ∀ n ∈ e.2.ends, Word.holds n = true :=
      fun e mem => fits e.1 e.2 (mem_toList.1 (perm.mem_iff.1 mem))
    rw [ofText, fields_of_writes written, readEntries_of_writes written fit, foldl_set perm]
  exact ⟨all, all _ _ (.refl _) m.forall₂_text⟩

/-- Three entries, each of another form and not in the standing order of the sides. -/
theorem ofText_written_mixed :
    let between := Interval.mk (some (-3)) (some (-1)) (by decide)
    let m : SideMap := ⟨some (.exact 0), none, some (.atLeast 1), some between⟩
    let entries := [(Side.bottom, between),
      (Side.right, Interval.exact 0), (Side.left, Interval.atLeast 1)]
    let pieces := ["bottom -3..-1", "right", "left:1+"]
    (∀ s r, m.get? s = some r → ∀ n ∈ r.ends, Word.holds n = true) ∧
      entries.Perm m.toList ∧ List.Forall₂ WritesEntry entries pieces ∧
      ofText "bottom -3..-1, right, left:1+" = .ok m ∧
      m.text = "right=0, left=1+, bottom=-3..-1" ∧ ofText m.text = .ok m := by
  intro between m entries pieces
  have fits : ∀ s r, m.get? s = some r → ∀ n ∈ r.ends, Word.holds n = true := by
    intro s r found
    cases s <;> cases found <;> decide
  have perm : entries.Perm m.toList := by decide
  have space : "bottom -3..-1" = Side.bottom.name ++ String.singleton ' ' ++
      Interval.text ⟨some (-3), some (-1), by decide⟩ := by decide +kernel
  have colon : "left:1+" = Side.left.name ++ String.singleton ':' ++ (Interval.atLeast 1).text := by
    decide +kernel
  have written : List.Forall₂ WritesEntry entries pieces :=
    .cons (space ▸ .limited (by decide)) (.cons .bare (.cons (colon ▸ .limited (by decide)) .nil))
  obtain ⟨all, shown⟩ := ofText_written m fits
  exact ⟨fits, perm, written, all entries pieces perm written, by decide +kernel, shown⟩

end SpatialGrammar.SideMap
