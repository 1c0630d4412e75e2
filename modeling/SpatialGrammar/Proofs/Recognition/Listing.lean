import SpatialGrammar.Proofs.Recognition.Schedule

/-!
# The order in which matches are listed

Matches of one pattern are listed by where they begin, from the top left. Matches of the root are
those of the root and of the patterns that extend it, in the order in which they are registered.
Main statement: `roots_listed`, a run lists the matches of the root pattern by pattern, and from the
top left within each pattern; when they are listed so on the whole.
-/

namespace SpatialGrammar

/-- A match begins in a row above that of another one, or in the same row and no further to the
right. -/
def Match.BeginsBy {α : Type} (m n : Match α) : Prop :=
  m.box.top < n.box.top ∨ m.box.top = n.box.top ∧ m.box.left ≤ n.box.left

namespace Recognition

open Grammar (Extends)
open Relation (ReflTransGen TransGen)

variable {α : Type} {ms : List (Match α)} {b c d : Box}

/-- Each match begins by the beginning of all later ones: by rows, and from left to right in each
of them. -/
def TopLeftFirst (ms : List (Match α)) : Prop := ms.Pairwise Match.BeginsBy

section listed

lemma notListedAfter_iff : notListedAfter b c = true ↔
    [b.top, b.left, b.height, b.width] ≤ [c.top, c.left, c.height, c.width] := by
  rw [notListedAfter, Bool.not_eq_true', decide_eq_false_iff_not, not_lt]

lemma notListedAfter_trans (h : notListedAfter b c = true) (h' : notListedAfter c d = true) :
    notListedAfter b d = true :=
  notListedAfter_iff.2 ((notListedAfter_iff.1 h).trans (notListedAfter_iff.1 h'))

lemma notListedAfter_total (b c : Box) : (notListedAfter b c || notListedAfter c b) = true := by
  rw [Bool.or_eq_true, notListedAfter_iff, notListedAfter_iff]
  exact le_total _ _

/-- What is not listed after a match does not begin after it. -/
lemma beginsBy_of_notListedAfter {m n : Match α} (h : notListedAfter m.box n.box = true) :
    m.BeginsBy n := by
  have before := not_lt.2 (notListedAfter_iff.1 h)
  rw [List.cons_lt_cons_iff, not_or, not_lt, not_and, List.cons_lt_cons_iff, not_or, not_lt]
    at before
  obtain ⟨le, further⟩ := before
  exact le.lt_or_eq.imp_right fun same => ⟨same, (further same.symm).1⟩

lemma listed_topLeftFirst (limit : Option Nat) (ms : List (Match α)) :
    TopLeftFirst (listed limit ms) := by
  have sorted : TopLeftFirst (ms.mergeSort fun m n => notListedAfter m.box n.box) := by
    refine (List.pairwise_mergeSort ?_ ?_ ms).imp beginsBy_of_notListedAfter
    · exact fun _ _ _ => notListedAfter_trans
    · exact fun m n => notListedAfter_total m.box n.box
  cases limit with
  | none => exact sorted
  | some most => exact sorted.take

lemma enforceCount_topLeftFirst (count : Interval) (h : TopLeftFirst ms) :
    TopLeftFirst (enforceCount count ms) := by
  unfold enforceCount
  split
  · exact h
  · exact h.take

lemma recognisePattern_topLeftFirst [Score α] {s : Scene α} {p : Pattern α}
    (h : recognisePattern s p = .ok ms) : TopLeftFirst ms := by
  simp only [recognisePattern, Outcome.bind_eq_ok, Outcome.pure_eq_ok] at h
  obtain ⟨found, -, rfl⟩ := h
  exact enforceCount_topLeftFirst p.count (listed_topLeftFirst _ found)

end listed

section runs

variable [Score α] {g : Grammar α} {options : Options α} {cells : List (ClassifiedCell α)}
variable {r : Run α}

/-- What a run has found for a pattern is what it reports for it, or nothing. -/
lemma producedBy_topLeftFirst (ran : run g options cells = .ok r) (name : Name) :
    TopLeftFirst (r.producedBy name) := by
  rw [Run.producedBy]
  cases reported : r.waves.flatten.find? fun report => report.pattern == name with
  | none => exact .nil
  | some report =>
    obtain ⟨_, _, _, -, -, recognised⟩ := exists_of_mem_run ran (List.mem_of_find?_eq_some reported)
    exact recognisePattern_topLeftFirst recognised

/-- A list of what has been found for several patterns is in order if the patterns are. -/
lemma flatMap_producedBy_topLeftFirst_iff (ran : run g options cells = .ok r)
    (family : List Name) : TopLeftFirst (family.flatMap r.producedBy) ↔
      family.Pairwise fun q q' => ∀ m ∈ r.producedBy q, ∀ n ∈ r.producedBy q', m.BeginsBy n := by
  rw [TopLeftFirst, List.pairwise_flatMap]
  exact and_iff_right fun q _ => producedBy_topLeftFirst ran q

/-- A run lists the matches of the root pattern by pattern, the patterns that extend the root in the
order of the waves, the root among them, and each of them with its matches from the top left. So the
list as a whole is in this order if and only if no match of a pattern begins after one of a later
pattern. It is if nothing is found for the patterns that extend the root. -/
theorem roots_listed (built : g.IsBuilt) (ran : run g options cells = .ok r) :
    ∃ family : List Name, family.Sublist g.waves.flatten ∧
      (∀ q, q ∈ family ↔ ReflTransGen (Extends g.patterns.values) q g.root) ∧
      r.roots = family.flatMap r.producedBy ∧
      (∀ q, TopLeftFirst (r.producedBy q)) ∧
      (TopLeftFirst r.roots ↔ family.Pairwise fun q q' =>
        ∀ m ∈ r.producedBy q, ∀ n ∈ r.producedBy q', m.BeginsBy n) ∧
      ((∀ q, TransGen (Extends g.patterns.values) q g.root → r.producedBy q = []) →
        TopLeftFirst r.roots) := by
  let family := g.waves.flatten.filter fun q => (q :: g.ancestorNames q).contains g.root
  have sub : family.Sublist g.waves.flatten := List.filter_sublist
  have mem (q : Name) : q ∈ family ↔ ReflTransGen (Extends g.patterns.values) q g.root := by
    rw [List.mem_filter, List.contains_iff_mem, built.mem_cons_ancestorNames]
    exact and_iff_right_of_imp fun up => (built.areWaves.mem_flatten q).2 ⟨q, up, .refl⟩
  have eq : r.roots = family.flatMap r.producedBy := by
    rw [Run.roots, (run_eq_ok ran).1]
    exact named_eq_flatMap built ran g.root
  have order := flatMap_producedBy_topLeftFirst_iff ran family
  refine ⟨family, sub, mem, eq, producedBy_topLeftFirst ran, eq ▸ order, fun none => ?_⟩
  rw [eq, order]
  -- of two different patterns of the family at least one extends the root
  refine (built.areWaves.nodup.sublist sub).imp_of_mem fun {q q'} hq hq' ne m hm n hn => ?_
  cases Relation.reflTransGen_iff_eq_or_transGen.1 ((mem q).1 hq) with
  | inr up => simp [none q up] at hm
  | inl root =>
    cases Relation.reflTransGen_iff_eq_or_transGen.1 ((mem q').1 hq') with
    | inr up => simp [none q' up] at hn
    | inl root' => exact absurd (root.symm.trans root') ne

/-- A grammar of signs, which are digits; letters are signs, too. -/
def signGrammar : Grammar ℚ where
  patterns := ⟨[("letter", { name := "letter", kind := .cell "l", bases := ["sign"] }),
    ("sign", { name := "sign", kind := .cell "d" })]⟩
  root := "sign"
  cellTypes := ⟨[("d", ["[0-9]"]), ("l", ["[a-z]"])]⟩
  options := Options.standard
  ancestors := ⟨[("letter", ["sign"]), ("sign", [])]⟩
  waves := [["letter", "sign"]]

lemma isBuilt_signGrammar : signGrammar.IsBuilt :=
  Grammar.isBuilt_of_build (by with_unfolding_all rfl)

/-- Without letters, the signs are listed from the top left. -/
theorem roots_listed_digits : signGrammar.IsBuilt ∧
    ∃ r, run signGrammar Options.standard digitCells = .ok r ∧ r.roots.length = 2 ∧
      TopLeftFirst r.roots := by
  have found : (run signGrammar Options.standard digitCells).toOption.any (fun r =>
      r.roots.length == 2 && (r.producedBy "letter").isEmpty) = true := by
    cbv
  obtain ⟨r, ran, both⟩ := Outcome.exists_of_any_toOption found
  obtain ⟨two, none⟩ := (Bool.and_eq_true _ _).mp both
  have built := isBuilt_signGrammar
  obtain ⟨family, -, -, -, -, -, ordered⟩ := roots_listed built ran
  refine ⟨built, r, ran, eq_of_beq two, ordered fun q up => ?_⟩
  obtain ⟨_, ⟨p, hp, rfl, hb⟩, -⟩ := Relation.TransGen.head'_iff.1 up
  obtain rfl | rfl : p = { name := "letter", kind := .cell "l", bases := ["sign"] } ∨
      p = { name := "sign", kind := .cell "d" } := by
    simpa [signGrammar, NameMap.values] using hp
  · exact List.isEmpty_iff.1 none
  · exact absurd hb List.not_mem_nil

/-- A digit and a letter in a row. -/
def digitAndLetter : Sheet := (Sheet.empty.set ⟨0, 0⟩ "1").set ⟨1, 0⟩ "a"

/-- The letter to the right of a digit is listed before it: letters are registered as signs before
the digits are. -/
theorem roots_not_topLeftFirst : signGrammar.IsBuilt ∧ digitAndLetter.Made ∧
    ∃ r, run signGrammar Options.standard
        (classifyCells (fun text => if text = "1" then [⟨"d", 1⟩] else [⟨"l", 1⟩])
          digitAndLetter) = .ok r ∧
      ¬ TopLeftFirst r.roots := by
  have found : (run signGrammar Options.standard
      (classifyCells (fun text => if text = "1" then [⟨"d", 1⟩] else [⟨"l", 1⟩])
        digitAndLetter)).toOption.any (fun r =>
          r.roots.map (fun m => (m.box.top, m.box.left)) == [(0, 1), (0, 0)]) = true := by
    cbv
  obtain ⟨r, ran, listed⟩ := Outcome.exists_of_any_toOption found
  refine ⟨isBuilt_signGrammar, (Sheet.Made.empty.set _ _).set _ _, r, ran, fun ordered => ?_⟩
  have places : (r.roots.map fun m => (m.box.top, m.box.left)).Pairwise fun a b =>
      a.1 < b.1 ∨ a.1 = b.1 ∧ a.2 ≤ b.2 := List.pairwise_map.2 ordered
  rw [eq_of_beq listed] at places
  simp at places

end runs

end Recognition

end SpatialGrammar
