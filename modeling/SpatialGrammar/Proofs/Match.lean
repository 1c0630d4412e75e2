import Mathlib.Data.List.Basic
import Mathlib.Data.List.Pairwise
import Mathlib.Logic.Relation
import SpatialGrammar.Match

/-!
# The points and the parts of matches

Which grid points a match occupies and what it is made of. Main statements: `Match.mem_points`, the
points are those of the cells, and `Match.pairwise_cells`, two cells of a match occupy a common
point only if two children of a match within it do.
-/

namespace SpatialGrammar.Match

open Relation (ReflTransGen)

variable {α : Type} {a b c m n : Match α} {p : Point}

/-- A match occupies the points of its cells. -/
lemma mem_points : p ∈ m.points ↔ ∃ c ∈ m.cells, c.box.containsPoint p = true := by
  simp [points, Distinct.mem_ofList, leaves, inRowOrder, Box.mem_points]

/-- Two matches occupy no grid point in common. -/
def Apart (a b : Match α) : Prop := List.Disjoint a.points b.points

instance : Decidable (a.Apart b) :=
  inferInstanceAs (Decidable (∀ p, p ∈ a.points → p ∉ b.points))

lemma Apart.symm (h : a.Apart b) : b.Apart a := List.disjoint_symm h

instance : Std.Symm (Apart (α := α)) := ⟨fun _ _ => Apart.symm⟩

section parts

/-- The matches of which a match is made: its items, or what is bound to its components. -/
def children : Match α → List (Match α)
  | cell _ _ _ _ _ => []
  | array _ _ items => items
  | composite _ _ bound _ => bound.flatMap (·.2)

/-- A match is another one, or a part of it. -/
def IsWithin (n m : Match α) : Prop :=
  ReflTransGen (fun parent child : Match α => child ∈ parent.children) m n

lemma sizeOf_lt_of_mem_children (h : c ∈ m.children) : sizeOf c < sizeOf m := by
  cases m with
  | cell => cases h
  | array pattern box items =>
    have lt : sizeOf c < sizeOf items := List.sizeOf_lt_of_mem h
    simp only [array.sizeOf_spec]
    omega
  | composite pattern box bound weights =>
    obtain ⟨⟨name, members⟩, entry, mem⟩ := List.mem_flatMap.1 h
    have lt := List.sizeOf_lt_of_mem mem
    have lt' := List.sizeOf_lt_of_mem entry
    simp only [composite.sizeOf_spec, Prod.mk.sizeOf_spec] at lt lt' ⊢
    omega

/-- What holds of a match if it holds of all its children holds of all matches. -/
theorem children_induction {P : Match α → Prop} (step : ∀ m, (∀ c ∈ m.children, P c) → P m)
    (m : Match α) : P m :=
  step m fun c _ => children_induction step c
termination_by sizeOf m
decreasing_by exact sizeOf_lt_of_mem_children ‹_›

section within

variable {P : Match α → Prop} {pattern cellType : Name} {box : Box} {text : String}
variable {confidence : α} {items : List (Match α)} {bound : List (Name × List (Match α))}
variable {weights : List (Name × α)}

/-- What is within a match is the match itself or within one of its children. -/
lemma forall_isWithin : (∀ n : Match α, n.IsWithin m → P n) ↔
    P m ∧ ∀ c ∈ m.children, ∀ n : Match α, n.IsWithin c → P n := by
  constructor
  · intro h
    exact ⟨h m .refl, fun c mem n inside => h n (.head mem inside)⟩
  · rintro ⟨self, parts⟩ n inside
    rcases Relation.ReflTransGen.cases_head inside with rfl | ⟨c, mem, inside⟩
    · exact self
    · exact parts c mem n inside

@[simp]
lemma forall_isWithin_cell :
    (∀ n : Match α, n.IsWithin (cell pattern box text cellType confidence) → P n) ↔
      P (cell pattern box text cellType confidence) := by
  rw [forall_isWithin]
  exact and_iff_left (List.forall_mem_nil _)

@[simp]
lemma forall_isWithin_array :
    (∀ n : Match α, n.IsWithin (array pattern box items) → P n) ↔
      P (array pattern box items) ∧ ∀ c ∈ items, ∀ n : Match α, n.IsWithin c → P n :=
  forall_isWithin

@[simp]
lemma forall_isWithin_composite :
    (∀ n : Match α, n.IsWithin (composite pattern box bound weights) → P n) ↔
      P (composite pattern box bound weights) ∧
        ∀ entry ∈ bound, ∀ c ∈ entry.2, ∀ n : Match α, n.IsWithin c → P n := by
  rw [forall_isWithin, children, List.forall_mem_flatMap]

end within

/-- The cells of a match are the match itself or the cells of its children. -/
lemma cells_cases (m : Match α) : m.cells = [m] ∨ m.cells = m.children.flatMap cells := by
  cases m with
  | cell => exact .inl rfl
  | array pattern box items => exact .inr (cellsOf_eq_flatMap items)
  | composite pattern box bound weights =>
    refine .inr ((cellsOfBound_eq_flatMap bound).trans ?_)
    rw [children, List.flatMap_assoc]

lemma cells_of_mem_cells (h : c ∈ m.cells) : c.cells = [c] := by
  induction m using children_induction with
  | step m ih =>
    rcases cells_cases m with single | several
    · rw [single, List.mem_singleton] at h
      rw [h, single]
    · rw [several] at h
      obtain ⟨child, mem, h⟩ := List.mem_flatMap.1 h
      exact ih child mem h

/-- Cells of matches that occupy different points do so, too. -/
lemma Apart.cells (h : m.Apart n) (ha : a ∈ m.cells) (hb : b ∈ n.cells) : a.Apart b := by
  intro p hp hq
  rw [mem_points, cells_of_mem_cells ha] at hp
  rw [mem_points, cells_of_mem_cells hb] at hq
  simp only [List.mem_singleton, exists_eq_left] at hp hq
  exact h (mem_points.2 ⟨a, ha, hp⟩) (mem_points.2 ⟨b, hb, hq⟩)

/-- If the children of all matches within a match occupy different points, apart from exceptional
pairs of children, then so do its cells, apart from those of exceptional pairs. -/
theorem pairwise_cells {Exempt : Match α → Match α → Match α → Prop}
    (h : ∀ n : Match α, n.IsWithin m → n.children.Pairwise fun i j => i.Apart j ∨ Exempt n i j) :
    m.cells.Pairwise fun a b => a.Apart b ∨
      ∃ n i j : Match α, n.IsWithin m ∧ Exempt n i j ∧ a ∈ i.cells ∧ b ∈ j.cells := by
  induction m using children_induction with
  | step m ih =>
    rcases cells_cases m with single | several
    · rw [single]
      exact List.pairwise_singleton _ m
    · rw [several, List.pairwise_flatMap, List.pairwise_iff_forall_sublist]
      constructor
      · intro child mem
        refine (ih child mem fun n inside => h n (.head mem inside)).imp fun {a b} or => ?_
        refine or.imp_right fun ⟨n, i, j, inside, rest⟩ => ?_
        exact ⟨n, i, j, .head mem inside, rest⟩
      · intro i j sub a ha b hb
        refine (List.pairwise_iff_forall_sublist.1 (h m .refl) sub).imp ?_ ?_
        · exact fun apart => apart.cells ha hb
        · exact fun exception => ⟨m, i, j, .refl, exception, ha, hb⟩

end parts

end SpatialGrammar.Match
