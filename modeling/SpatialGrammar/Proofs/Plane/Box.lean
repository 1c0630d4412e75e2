import Mathlib.Algebra.Order.Group.Unbundled.Int
import SpatialGrammar.Plane.Box

/-!
# Boxes that enclose boxes and boxes without common points

The order of boxes by what their edges enclose, and when boxes have a grid point in common. Main
statements: `Box.contains_hull`, the least box around some boxes is enclosed by exactly those boxes
that enclose all of them, and `Box.inter?_eq_none_iff`.
-/

namespace SpatialGrammar.Box

variable {b c d h : Box} {bs : List Box} {p : Point}

lemma containsPoint_iff : b.containsPoint p = true ↔
    b.left ≤ p.x ∧ p.x < b.right ∧ b.top ≤ p.y ∧ p.y < b.bottom := by
  simp only [containsPoint, Bool.and_eq_true, decide_eq_true_eq, and_assoc]

lemma contains_iff : b.contains c = true ↔
    b.left ≤ c.left ∧ c.right ≤ b.right ∧ b.top ≤ c.top ∧ c.bottom ≤ b.bottom := by
  simp only [contains, Bool.and_eq_true, decide_eq_true_eq, and_assoc]

@[simp] lemma contains_self (b : Box) : b.contains b = true :=
  contains_iff.2 ⟨le_rfl, le_rfl, le_rfl, le_rfl⟩

lemma left_le_right (b : Box) : b.left ≤ b.right := by
  unfold right
  omega

lemma top_le_bottom (b : Box) : b.top ≤ b.bottom := by
  unfold bottom
  omega

lemma right_ofEdges {left top right bottom : Int} (h : left ≤ right) :
    (ofEdges left top right bottom).right = right := by
  simp only [ofEdges, ofSizes, Box.right]
  omega

lemma bottom_ofEdges {left top right bottom : Int} (h : top ≤ bottom) :
    (ofEdges left top right bottom).bottom = bottom := by
  simp only [ofEdges, ofSizes, Box.bottom]
  omega

lemma right_join (b c : Box) : (join b c).right = max b.right c.right :=
  right_ofEdges ((min_le_left _ _).trans (b.left_le_right.trans (le_max_left _ _)))

lemma bottom_join (b c : Box) : (join b c).bottom = max b.bottom c.bottom :=
  bottom_ofEdges ((min_le_left _ _).trans (b.top_le_bottom.trans (le_max_left _ _)))

/-- The least box around two boxes is enclosed by what encloses both. -/
lemma contains_join : d.contains (join b c) = true ↔
    d.contains b = true ∧ d.contains c = true := by
  simp only [contains_iff, right_join, bottom_join]
  simp only [join, ofEdges, ofSizes, le_min_iff, max_le_iff]
  constructor
  · rintro ⟨⟨hl, hl'⟩, ⟨hr, hr'⟩, ⟨ht, ht'⟩, hb, hb'⟩
    exact ⟨⟨hl, hr, ht, hb⟩, hl', hr', ht', hb'⟩
  · rintro ⟨⟨hl, hr, ht, hb⟩, hl', hr', ht', hb'⟩
    exact ⟨⟨hl, hl'⟩, ⟨hr, hr'⟩, ⟨ht, ht'⟩, hb, hb'⟩

lemma contains_foldl_join : d.contains (bs.foldl join b) = true ↔
    d.contains b = true ∧ ∀ c ∈ bs, d.contains c = true := by
  induction bs generalizing b with
  | nil => simp
  | cons c cs ih => rw [List.foldl_cons, ih, contains_join, List.forall_mem_cons, and_assoc]

/-- The least box around some boxes is enclosed by what encloses all of them. -/
lemma contains_hull (eq : hull? bs = some h) :
    d.contains h = true ↔ ∀ c ∈ bs, d.contains c = true := by
  cases bs with
  | nil => simp [hull?] at eq
  | cons b bs =>
    rw [← Option.some.inj eq, contains_foldl_join, List.forall_mem_cons]

/-- A box is the least one around some boxes: it encloses all of them, and whatever encloses all of
them encloses it. -/
def IsLeastAround (h : Box) (bs : List Box) : Prop :=
  (∀ c ∈ bs, h.contains c = true) ∧ ∀ d : Box, (∀ c ∈ bs, d.contains c = true) → d.contains h = true

lemma isLeastAround_hull (eq : hull? bs = some h) : h.IsLeastAround bs :=
  ⟨(contains_hull eq).1 h.contains_self, fun _ around => (contains_hull eq).2 around⟩

/-- Boxes that enclose each other are the same. -/
lemma eq_of_contains (h : b.contains c = true) (h' : c.contains b = true) : b = c := by
  rw [contains_iff] at h h'
  unfold right bottom at h h'
  cases b
  cases c
  rw [Box.mk.injEq]
  dsimp only at h h'
  omega

/-- The least box around some boxes does not depend on their order. -/
lemma hull?_perm {cs : List Box} (perm : bs.Perm cs) : hull? bs = hull? cs := by
  cases eq : hull? bs with
  | none =>
    cases bs with
    | nil => rw [List.nil_perm.1 perm, hull?]
    | cons b bs => cases eq
  | some h =>
    cases eq' : hull? cs with
    | none =>
      cases cs with
      | nil =>
        rw [List.perm_nil.1 perm] at eq
        cases eq
      | cons c cs => cases eq'
    | some h' =>
      refine congrArg some (eq_of_contains ?_ ?_)
      · exact (contains_hull eq').2 fun c hc => (contains_hull eq).1 h.contains_self c
          (perm.mem_iff.2 hc)
      · exact (contains_hull eq).2 fun c hc => (contains_hull eq').1 h'.contains_self c
          (perm.mem_iff.1 hc)

/-- The least box around some boxes stands for them. -/
lemma hull?_append (bs cs : List Box) : hull? ((hull? bs).toList ++ cs) = hull? (bs ++ cs) := by
  cases bs with
  | nil => rfl
  | cons b bs => exact congrArg some List.foldl_append.symm

lemma containsPoint_unit {x y : Int} : (unit x y).containsPoint p = true ↔ p = ⟨x, y⟩ := by
  rw [containsPoint_iff, Point.mk.injEq]
  unfold unit right bottom
  dsimp only
  omega

lemma isEmpty_eq_false : b.isEmpty = false ↔ 0 < b.width ∧ 0 < b.height := by
  rw [isEmpty, Bool.or_eq_false_iff, beq_eq_false_iff_ne, beq_eq_false_iff_ne, Nat.pos_iff_ne_zero,
    Nat.pos_iff_ne_zero]

lemma containsPoint_corner (h : b.isEmpty = false) : b.containsPoint b.corner = true := by
  rw [isEmpty_eq_false] at h
  rw [containsPoint_iff]
  unfold corner right bottom
  dsimp only
  omega

/-- A box with one grid point is the box of that point. -/
lemma eq_unit (h : b.isEmpty = false) (small : b.area ≤ 1) : b = unit b.left b.top := by
  obtain ⟨wide, high⟩ := isEmpty_eq_false.1 h
  have width : b.width ≤ 1 := (Nat.le_mul_of_pos_right b.width high).trans small
  have height : b.height ≤ 1 := (Nat.le_mul_of_pos_left b.height wide).trans small
  cases b with
  | mk left top w h => simp_all [unit, Nat.le_antisymm_iff, Nat.succ_le_iff]

/-- Two boxes have no grid point in common. -/
def Apart (b c : Box) : Prop := ∀ p, b.containsPoint p = true → ¬ c.containsPoint p = true

lemma Apart.symm (h : b.Apart c) : c.Apart b := fun p hc hb => h p hb hc

instance : Std.Symm Apart := ⟨fun _ _ => Apart.symm⟩

lemma inter?_eq_none_iff : b.inter? c = none ↔ b.Apart c := by
  unfold inter?
  simp only [ite_eq_right_iff, reduceCtorEq, imp_false, max_lt_iff, lt_min_iff, Apart,
    containsPoint_iff]
  constructor
  · intro h p hb hc
    omega
  · intro h common
    refine h ⟨max b.left c.left, max b.top c.top⟩ ?_ ?_ <;> dsimp only <;> omega

end SpatialGrammar.Box
