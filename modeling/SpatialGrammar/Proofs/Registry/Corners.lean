import Mathlib
import SpatialGrammar.Plane.Workings
import SpatialGrammar.Proofs.Order.Cut
import SpatialGrammar.Proofs.Outcome
import SpatialGrammar.Proofs.Plane.Region
import SpatialGrammar.Proofs.Registry

/-!
# Matches within a region

Within a region whose outermost edges are known, only matches are visited whose corners lie between
these, and they are found in the index of corners. No match that may lie in the region is missed, as
its box is not empty. Main statements: `IsBuilt.anchored`, the index of corners leads to the
matches, and `namedIn_built`, what is looked up within a region is what filtering finds.
-/

namespace SpatialGrammar

namespace Point

variable {p q r : Point}

lemma precedes_iff : p.precedes q = true ↔ p.x < q.x ∨ p.x = q.x ∧ p.y < q.y := by
  simp only [precedes, Bool.or_eq_true, Bool.and_eq_true, decide_eq_true_eq]

lemma precedes_trans (h : p.precedes q = true) (h' : q.precedes r = true) :
    p.precedes r = true := by
  rw [precedes_iff] at h h' ⊢
  omega

lemma precedes_total (ne : p ≠ q) : p.precedes q = true ∨ q.precedes p = true := by
  rw [precedes_iff, precedes_iff]
  by_contra neither
  apply ne
  rw [Point.mk.injEq]
  omega

lemma x_le_of_precedes (h : p.precedes q = true) : p.x ≤ q.x := by
  rw [precedes_iff] at h
  omega

end Point

namespace Registry

variable {α : Type} {r : Registry α} {m : Match α} {also : List Name} {extent : Box}

section index

variable {index : List (Point × List Nat)} {entry : Point × List Nat} {p corner : Point}
variable {i position : Nat}

/-- A position is listed under a corner in an index. -/
def Lists (index : List (Point × List Nat)) (p : Point) (i : Nat) : Prop :=
  ∃ positions, (p, positions) ∈ index ∧ i ∈ positions

/-- The corners of an index ascend. -/
def Ascends (index : List (Point × List Nat)) : Prop :=
  index.Pairwise fun e f => e.1.precedes f.1 = true

lemma lists_cons {q : Point} {positions : List Nat} :
    Lists ((q, positions) :: index) p i ↔ p = q ∧ i ∈ positions ∨ Lists index p i := by
  constructor
  · rintro ⟨listed, mem, hi⟩
    cases List.mem_cons.1 mem with
    | inl eq =>
      obtain ⟨rfl, rfl⟩ := Prod.mk.inj eq
      exact .inl ⟨rfl, hi⟩
    | inr rest => exact .inr ⟨listed, rest, hi⟩
  · rintro (⟨rfl, hi⟩ | ⟨listed, mem, hi⟩)
    · exact ⟨positions, List.mem_cons_self .., hi⟩
    · exact ⟨listed, List.mem_cons_of_mem _ mem, hi⟩

/-- A position is added under a corner, the others stay where they are. -/
lemma lists_addCorner : Lists (addCorner position corner index) p i ↔
    p = corner ∧ i = position ∨ Lists index p i := by
  induction index with
  | nil => rw [addCorner, lists_cons, List.mem_singleton]
  | cons entry index ih =>
    obtain ⟨q, positions⟩ := entry
    rw [addCorner]
    split
    next same =>
      rw [lists_cons, lists_cons, List.mem_cons, and_or_left, or_assoc, same]
    next =>
      split
      next => rw [lists_cons, List.mem_singleton]
      next => rw [lists_cons, lists_cons, ih, or_left_comm]

lemma corner_of_mem_addCorner (h : entry ∈ addCorner position corner index) :
    entry.1 = corner ∨ ∃ old ∈ index, old.1 = entry.1 := by
  induction index with
  | nil => exact .inl (List.mem_singleton.1 h ▸ rfl)
  | cons first index ih =>
    rw [addCorner] at h
    split at h
    next same =>
      cases List.mem_cons.1 h with
      | inl eq => exact .inl (eq ▸ same.symm)
      | inr rest => exact .inr ⟨entry, List.mem_cons_of_mem _ rest, rfl⟩
    next =>
      split at h
      next =>
        cases List.mem_cons.1 h with
        | inl eq => exact .inl (eq ▸ rfl)
        | inr old => exact .inr ⟨entry, old, rfl⟩
      next =>
        cases List.mem_cons.1 h with
        | inl eq => exact .inr ⟨first, List.mem_cons_self .., eq ▸ rfl⟩
        | inr rest =>
          refine (ih rest).imp_right fun ⟨old, mem, eq⟩ => ?_
          exact ⟨old, List.mem_cons_of_mem _ mem, eq⟩

lemma Ascends.addCorner (h : Ascends index) (position : Nat) (corner : Point) :
    Ascends (addCorner position corner index) := by
  induction index with
  | nil => exact List.pairwise_singleton _ _
  | cons first index ih =>
    obtain ⟨before, rest⟩ := List.pairwise_cons.1 h
    rw [Registry.addCorner]
    split
    next => exact .cons before rest
    next ne =>
      split
      next precedes =>
        refine .cons (List.forall_mem_cons.2 ⟨precedes, fun entry mem => ?_⟩) h
        exact Point.precedes_trans precedes (before entry mem)
      next behind =>
        refine .cons (fun entry mem => ?_) (ih rest)
        cases corner_of_mem_addCorner mem with
        | inl eq => exact eq ▸ (Point.precedes_total ne).resolve_left behind
        | inr old =>
          obtain ⟨old, mem, eq⟩ := old
          exact eq ▸ before old mem

/-- Where corners ascend, those in a range of columns are next to each other. -/
lemma Ascends.columns (h : Ascends index) (left right : Int) :
    (index.dropWhile fun entry => decide (entry.1.x < left)).takeWhile
        (fun entry => decide (entry.1.x < right)) =
      index.filter fun entry => decide (left ≤ entry.1.x) && decide (entry.1.x < right) := by
  have first (bound : Int) : index.Pairwise fun e f =>
      decide (f.1.x < bound) = true → decide (e.1.x < bound) = true := by
    refine h.imp fun {e f} precedes => ?_
    rw [decide_eq_true_eq, decide_eq_true_eq]
    exact (Point.x_le_of_precedes precedes).trans_lt
  rw [Cut.dropWhile_eq_filter (first left), Cut.takeWhile_eq_filter ((first right).filter _),
    List.filter_filter]
  refine List.filter_congr fun entry _ => ?_
  rw [Bool.and_comm]
  simp only [← decide_not, not_lt]

end index

/-- Registries that come from registering matches whose boxes are not empty. -/
inductive IsBuilt : Registry α → Prop
  | empty : IsBuilt empty
  | register {r : Registry α} (built : IsBuilt r) (m : Match α) (also : List Name)
      (filled : m.box.isEmpty = false) : IsBuilt (r.register m also)

/-- The index of corners leads to the matches: its corners ascend, and under each of them it lists
the positions of the matches with this corner. No box of a match is empty. -/
structure IsAnchored (r : Registry α) : Prop where
  ascending : Ascends r.byCorner
  lists : ∀ p i, Lists r.byCorner p i ↔ ∃ m : Match α, r.found[i]? = some m ∧ m.box.corner = p
  filled : ∀ (i : Nat) (m : Match α), r.found[i]? = some m → m.box.isEmpty = false

lemma isAnchored_empty : (empty : Registry α).IsAnchored where
  ascending := .nil
  lists p i := by simp [Lists, empty]
  filled i m h := by simp [empty] at h

lemma IsAnchored.register (h : r.IsAnchored) (m : Match α) (also : List Name)
    (filled : m.box.isEmpty = false) : (r.register m also).IsAnchored where
  ascending := h.ascending.addCorner _ _
  lists p i := by
    rw [Registry.register, lists_addCorner, h.lists, Array.getElem?_push]
    split
    next last => simp [last, eq_comm]
    next ne => simp [ne]
  filled i m' found := by
    rw [Registry.register, Array.getElem?_push] at found
    split at found
    next => exact Option.some.inj found ▸ filled
    next => exact h.filled i m' found

theorem IsBuilt.anchored (h : r.IsBuilt) : r.IsAnchored := by
  induction h with
  | empty => exact isAnchored_empty
  | register _ m also filled ih => exact ih.register m also filled

namespace IsAnchored

/-- Looking up the corners in a box finds the matches that begin in it. -/
lemma mem_anchoredIn (h : r.IsAnchored) {i : Nat} : i ∈ r.anchoredIn extent ↔
    ∃ m, r.found[i]? = some m ∧ extent.containsPoint m.box.corner = true := by
  have found : i ∈ r.anchoredIn extent ↔
      ∃ p, Lists r.byCorner p i ∧ extent.containsPoint p = true := by
    dsimp only [anchoredIn]
    rw [h.ascending.columns, List.filter_filter, List.mem_flatMap]
    simp only [List.mem_filter, Box.containsPoint_iff, Bool.and_eq_true, decide_eq_true_eq]
    constructor
    · rintro ⟨⟨p, positions⟩, ⟨mem, rows, columns⟩, hi⟩
      exact ⟨p, ⟨positions, mem, hi⟩, columns.1, columns.2, rows⟩
    · rintro ⟨p, ⟨positions, mem, hi⟩, left, right, rows⟩
      exact ⟨(p, positions), ⟨mem, rows, left, right⟩, hi⟩
  simp only [found, h.lists]
  constructor
  · rintro ⟨p, ⟨m, hm, rfl⟩, inside⟩
    exact ⟨m, hm, inside⟩
  · rintro ⟨m, hm, inside⟩
    exact ⟨_, ⟨m, hm, rfl⟩, inside⟩

/-- No match that may lie in a region is missed. -/
lemma mem_nearby (h : r.IsAnchored) {i : Nat} {name : Name} {region : Region}
    (mem : i ∈ r.positions name) (found : r.found[i]? = some m)
    (inside : region.mayContain m.box = true) : i ∈ r.nearby name region := by
  unfold nearby
  split
  next => exact mem
  next extent known =>
    have begins := Region.containsPoint_corner known (h.filled i m found) inside
    rw [List.mem_filter, List.contains_iff_mem]
    exact ⟨mem, h.mem_anchoredIn.2 ⟨m, found, begins⟩⟩

lemma namedIn_eq_filter (h : r.IsAnchored) (name : Name) (region : Region) :
    r.namedIn name (some region) = (r.named name).filter fun m => region.mayContain m.box := by
  cases known : region.maximal? with
  | none => rw [namedIn, nearby, known, named]
  | some extent =>
    -- whatever is not visited is no match or does not pass the test
    have visited : ∀ i ∈ r.positions name,
        (if (r.anchoredIn extent).contains i then
          r.found[i]?.filter fun m => region.mayContain m.box else none) =
        r.found[i]?.filter fun m => region.mayContain m.box := by
      intro i mem
      split
      next => rfl
      next missed =>
        rw [eq_comm, Option.filter_eq_none_iff]
        intro m found inside
        have near := h.mem_nearby mem found inside
        rw [nearby, known, List.mem_filter] at near
        exact missed near.2
    rw [namedIn, nearby, known, named, atPositions, atPositions, List.filter_filterMap,
      List.filterMap_filter, List.filter_filterMap]
    exact List.filterMap_congr visited

end IsAnchored

/-- A look-up only leaves the words if the size of what the region may cover does, or if a test of
filtering does. -/
lemma holdsAll_namedInWorkings {name : Name} {region : Region}
    (size : Word.holdsAll region.maximalWorkings = true)
    (tests : ∀ m ∈ r.named name, Word.holdsAll (region.mayContainWorkings m.box) = true) :
    Word.holdsAll (r.namedInWorkings name region) = true := by
  unfold namedInWorkings
  split
  next =>
    rw [Word.holdsAll_append, size, Bool.true_and, Word.holdsAll, List.all_flatMap,
      List.all_eq_true]
    intro m visited
    exact tests m (((r.nearby_sublist name region).filterMap _).subset visited)
  next => rfl

/-- In a registry built from matches whose boxes are not empty, what is looked up within a region is
what filtering finds. The columns of a look-up are never reversed, and it has this result unless the
size of what the region may cover or a test of filtering leaves the words. -/
theorem namedIn_built (h : r.IsBuilt) (name : Name) (region : Region) :
    let kept := (r.named name).filter fun m => region.mayContain m.box
    r.namedIn name (some region) = kept ∧
      (∀ extent ∈ region.maximal?, ∀ row,
        (Point.mk extent.right row).precedes ⟨extent.left, row⟩ = false) ∧
      (Word.holdsAll region.maximalWorkings = true →
        (∀ m ∈ r.named name, Word.holdsAll (region.mayContainWorkings m.box) = true) →
          Fault.within (r.namedInWorkings name region) (r.namedIn name (some region)) =
            .ok kept) := by
  have found := h.anchored.namedIn_eq_filter name region
  refine ⟨found, fun extent _ row => ?_, fun size tests => ?_⟩
  · have ordered := extent.left_le_right
    rw [Bool.eq_false_iff, Ne, Point.precedes_iff]
    dsimp only
    omega
  · exact Outcome.within_eq_ok.2 ⟨holdsAll_namedInWorkings size tests, found⟩

section witness

/-- A digit in the first row. -/
def digitAt (x : Int) : Match ℚ := .cell "digit" (Box.unit x 0) "1" "d" 1

/-- Of three digits, the second one is found within a region. -/
theorem namedIn_built_digits :
    let r := ((empty.register (digitAt 0) []).register (digitAt 2) ["sign"]).register (digitAt 5) []
    let region := Region.ofEdges (.atLeast 1) (.atLeast 0) (.atMost 4) (.atMost 1)
    r.IsBuilt ∧ Fault.within (r.namedInWorkings "digit" region)
      (r.namedIn "digit" (some region)) = .ok [digitAt 2] := by
  intro r region
  have built : r.IsBuilt := ((IsBuilt.empty.register _ _ rfl).register _ _ rfl).register _ _ rfl
  have kept : (r.named "digit").filter (fun m => region.mayContain m.box) = [digitAt 2] := by
    cbv
  have tests : (r.named "digit").all (fun m =>
      Word.holdsAll (region.mayContainWorkings m.box)) = true := by
    cbv
  obtain ⟨-, -, found⟩ := namedIn_built built "digit" region
  exact ⟨built, kept ▸ found rfl (List.all_eq_true.1 tests)⟩

/-- The size of what a region may cover need not be a word, where filtering has a result. -/
theorem namedIn_out_of_words :
    let r := empty.register (digitAt 0) []
    let region := Region.ofEdges (.atLeast (Word.least + 1)) (.atLeast 0) (.atMost Word.greatest)
      (.atMost 1)
    r.IsBuilt ∧ (r.named "digit").filter (fun m => region.mayContain m.box) = [digitAt 0] ∧
      (r.named "digit").all (fun m => Word.holdsAll (region.mayContainWorkings m.box)) = true ∧
      Fault.within (r.namedInWorkings "digit" region) (r.namedIn "digit" (some region)) =
        .error .overflow := by
  intro r region
  refine ⟨IsBuilt.empty.register _ _ rfl, ?_, ?_, ?_⟩
  · cbv
  · cbv
  · cbv

end witness

end Registry

end SpatialGrammar
