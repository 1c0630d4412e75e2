import SpatialGrammar.Proofs.Plane.Region

/-!
# Combining many regions

Regions are combined two at a time, in some order and grouping, together with the region of which
nothing is known. Main statements: `outcome?_perm`, what comes out depends on the regions alone, and
`outcome?_exact`, it leaves exactly those boxes possible that all of the regions leave possible, and
nothing comes out if there is no such box.
-/

namespace SpatialGrammar

variable {r s t u : Region} {b : Box} {n : Int}

namespace Region

/-- Where an edge of the boxes of a region may lie. -/
def edge (r : Region) : Side → Interval
  | .right => r.right
  | .top => r.top
  | .left => r.left
  | .bottom => r.bottom

/-- A region is known by its edges. -/
lemma eq_of_edge (h : ∀ side, r.edge side = s.edge side) : r = s := by
  obtain ⟨⟨left, right⟩, top, bottom⟩ := r
  obtain ⟨⟨left', right'⟩, top', bottom'⟩ := s
  obtain rfl : left = left' := h .left
  obtain rfl : right = right' := h .right
  obtain rfl : top = top' := h .top
  obtain rfl : bottom = bottom' := h .bottom
  rfl

/-- Combining two regions narrows each edge to what both leave possible for it. -/
lemma contains_edge_of_combine? (h : r.combine? s = some t) (side : Side) :
    (t.edge side).contains n = true ↔
      (r.edge side).contains n = true ∧ (s.edge side).contains n = true := by
  obtain ⟨across, down⟩ := combine?_eq_some.1 h
  obtain ⟨left, right, -⟩ := Span.combine?_eq_some.1 across
  obtain ⟨top, bottom, -⟩ := Span.combine?_eq_some.1 down
  cases side with
  | right => exact Interval.contains_of_inter? right
  | top => exact Interval.contains_of_inter? top
  | left => exact Interval.contains_of_inter? left
  | bottom => exact Interval.contains_of_inter? bottom

end Region

/-- A way of combining regions two at a time, in some order and grouping. -/
inductive Combination where
  | region (r : Region)
  | pair (a b : Combination)

namespace Combination

variable {a c d : Combination}

/-- The regions that are combined, from left to right. -/
def regions : Combination → List Region
  | region r => [r]
  | pair a b => a.regions ++ b.regions

/-- What comes out, unless two of the regions on the way cannot be combined. -/
def outcome? : Combination → Option Region
  | region r => some r
  | pair a b => do (← a.outcome?).combine? (← b.outcome?)

/-- Combines regions one after the other, beginning with one of which nothing is known. -/
def chain (rs : List Region) : Combination :=
  rs.foldl (fun c r => pair c (region r)) (region Region.unbounded)

lemma outcome?_pair : (pair a c).outcome? = some u ↔
    ∃ r s, a.outcome? = some r ∧ c.outcome? = some s ∧ r.combine? s = some u := by
  simp only [outcome?, Option.bind_eq_bind, Option.bind_eq_some_iff]
  constructor
  · rintro ⟨r, hr, s, hs, h⟩
    exact ⟨r, s, hr, hs, h⟩
  · rintro ⟨r, s, hr, hs, h⟩
    exact ⟨r, hr, s, hs, h⟩

/-- A box is left possible in the end if all regions leave it possible. -/
lemma exists_outcome?_iff : (∃ u, c.outcome? = some u ∧ u.admits b = true) ↔
    ∀ r ∈ c.regions, r.admits b = true := by
  induction c with
  | region r => simp [outcome?, regions]
  | pair a c iha ihc =>
    rw [regions, List.forall_mem_append, ← iha, ← ihc]
    constructor
    · rintro ⟨u, h, admitted⟩
      obtain ⟨r, s, hr, hs, combined⟩ := outcome?_pair.1 h
      obtain ⟨left, right⟩ := Region.exists_combine?_iff.1 ⟨u, combined, admitted⟩
      exact ⟨⟨r, hr, left⟩, s, hs, right⟩
    · rintro ⟨⟨r, hr, left⟩, s, hs, right⟩
      obtain ⟨u, combined, admitted⟩ := Region.exists_combine?_iff.2 ⟨left, right⟩
      exact ⟨u, outcome?_pair.2 ⟨r, s, hr, hs, combined⟩, admitted⟩

/-- An edge may lie in the end where all regions leave it possible. -/
lemma contains_edge_outcome? (h : c.outcome? = some u) (side : Side) :
    (u.edge side).contains n = true ↔ ∀ r ∈ c.regions, (r.edge side).contains n = true := by
  induction c generalizing u with
  | region r =>
    obtain rfl := Option.some.inj h
    rw [regions, List.forall_mem_singleton]
  | pair a c iha ihc =>
    obtain ⟨r, s, hr, hs, combined⟩ := outcome?_pair.1 h
    rw [regions, List.forall_mem_append, Region.contains_edge_of_combine? combined, iha hr, ihc hs]

section unbounded

variable (mem : Region.unbounded ∈ c.regions)

include mem

/-- What comes out leaves some box possible. A single region is combined with nothing, and may have
its edges reversed if it is not the unbounded one. -/
lemma exists_admits_of_outcome? (h : c.outcome? = some u) : ∃ b, u.admits b = true := by
  cases c with
  | region r =>
    obtain rfl := Option.some.inj h
    exact ⟨Box.unit 0 0, List.mem_singleton.1 mem ▸ Region.admits_unbounded⟩
  | pair a c =>
    obtain ⟨r, s, -, -, combined⟩ := outcome?_pair.1 h
    exact Region.exists_admits combined

lemma exists_outcome?_iff_exists : (∃ u, c.outcome? = some u) ↔
    ∃ b : Box, ∀ r ∈ c.regions, r.admits b = true := by
  constructor
  · rintro ⟨u, h⟩
    obtain ⟨b, admitted⟩ := exists_admits_of_outcome? mem h
    exact ⟨b, exists_outcome?_iff.1 ⟨u, h, admitted⟩⟩
  · rintro ⟨b, admitted⟩
    obtain ⟨u, h, -⟩ := exists_outcome?_iff.2 admitted
    exact ⟨u, h⟩

lemma outcome?_of_perm (perm : c.regions.Perm d.regions) (h : c.outcome? = some u) :
    d.outcome? = some u := by
  obtain ⟨b, admitted⟩ := (exists_outcome?_iff_exists mem).1 ⟨u, h⟩
  obtain ⟨t, eq, -⟩ := exists_outcome?_iff.2 fun r hr => admitted r (perm.mem_iff.2 hr)
  rw [eq]
  refine congrArg some (Region.eq_of_edge fun side => Interval.eq_of_contains fun n => ?_)
  rw [contains_edge_outcome? eq, contains_edge_outcome? h]
  exact forall_congr' fun r => imp_congr_left perm.mem_iff.symm

/-- What comes out does not depend on order and grouping. -/
lemma outcome?_perm (perm : c.regions.Perm d.regions) : c.outcome? = d.outcome? :=
  Option.ext fun _ =>
    ⟨outcome?_of_perm mem perm, outcome?_of_perm (perm.mem_iff.1 mem) perm.symm⟩

end unbounded

lemma regions_chain (rs : List Region) : (chain rs).regions = Region.unbounded :: rs := by
  have all : ∀ c : Combination,
      (rs.foldl (fun c r => pair c (region r)) c).regions = c.regions ++ rs := by
    induction rs with
    | nil => exact fun c => (List.append_nil _).symm
    | cons r rs ih =>
      intro c
      rw [List.foldl_cons, ih, regions, regions, List.append_assoc, List.singleton_append]
  exact all _

lemma outcome?_chain (rs : List Region) :
    (chain rs).outcome? = rs.foldlM Region.combine? Region.unbounded := by
  have all : ∀ c : Combination, (rs.foldl (fun c r => pair c (region r)) c).outcome? =
      c.outcome?.bind fun start => rs.foldlM Region.combine? start := by
    induction rs with
    | nil => exact fun c => (Option.bind_fun_some _).symm
    | cons r rs ih =>
      intro c
      rw [List.foldl_cons, ih, outcome?]
      cases c.outcome? with
      | none => rfl
      | some start => rfl
  exact all _

/-- In whatever order and grouping regions are combined, with the one of which nothing is known
among them: what comes out is the same as when they are combined one after the other. Nothing comes
out exactly if there is no box that all of them leave possible, and otherwise a region that leaves
exactly these boxes possible. -/
theorem outcome?_exact (rs : List Region) :
    (∀ c : Combination, c.regions.Perm (Region.unbounded :: rs) →
      c.outcome? = rs.foldlM Region.combine? Region.unbounded) ∧
    (rs.foldlM Region.combine? Region.unbounded = none ↔
      ¬ ∃ b : Box, ∀ r ∈ rs, r.admits b = true) ∧
    ∀ u, rs.foldlM Region.combine? Region.unbounded = some u →
      ∀ b, u.admits b = true ↔ ∀ r ∈ rs, r.admits b = true := by
  have among : Region.unbounded ∈ (chain rs).regions := by
    rw [regions_chain]
    exact List.mem_cons_self
  have all (b : Box) : (∀ r ∈ (chain rs).regions, r.admits b = true) ↔
      ∀ r ∈ rs, r.admits b = true := by
    rw [regions_chain, List.forall_mem_cons]
    exact and_iff_right Region.admits_unbounded
  rw [← outcome?_chain]
  refine ⟨fun c perm => ?_, ?_, fun u h b => ?_⟩
  · rw [← regions_chain] at perm
    exact outcome?_perm (perm.mem_iff.2 among) perm
  · simp only [← all, ← exists_outcome?_iff_exists among, Option.eq_none_iff_forall_ne_some,
      not_exists]
  · rw [← all, ← exists_outcome?_iff, h]
    simp

/-- Limits for the left and the right edge, combined in pairs, leave some boxes possible; with a
right edge before the left one they leave none. -/
theorem outcome?_exact_edges :
    let any := Interval.unbounded
    let fromLeft := Region.ofEdges (Interval.atLeast 2) any any any
    let toRight := Region.ofEdges any any (Interval.atMost 9) any
    let wide := Region.ofEdges (Interval.atMost 3) any (Interval.atLeast 8) any
    let before := Region.ofEdges any any (Interval.atMost 1) any
    let pairs := pair (pair (region wide) (region toRight)) (pair (region fromLeft)
      (region Region.unbounded))
    pairs.regions.Perm (Region.unbounded :: [fromLeft, toRight, wide]) ∧
      (∃ u, pairs.outcome? = some u ∧ u.left = Region.between 2 3 ∧ u.right = Region.between 8 9 ∧
        ∀ b, u.admits b = true ↔ ∀ r ∈ [fromLeft, toRight, wide], r.admits b = true) ∧
      (pair pairs (region before)).regions.Perm
        (Region.unbounded :: [before, fromLeft, toRight, wide]) ∧
      (pair pairs (region before)).outcome? = none ∧
      ¬ ∃ b : Box, ∀ r ∈ [before, fromLeft, toRight, wide], r.admits b = true := by
  intro any fromLeft toRight wide before pairs
  have perm : pairs.regions.Perm (Region.unbounded :: [fromLeft, toRight, wide]) := by decide
  have perm' : (pair pairs (region before)).regions.Perm
      (Region.unbounded :: [before, fromLeft, toRight, wide]) := by decide
  obtain ⟨same, -, members⟩ := outcome?_exact [fromLeft, toRight, wide]
  obtain ⟨same', nothing, -⟩ := outcome?_exact [before, fromLeft, toRight, wide]
  have failed : (pair pairs (region before)).outcome? = none := by decide
  refine ⟨perm, ?_, perm', failed, nothing.1 (same' _ perm' ▸ failed)⟩
  obtain ⟨u, h, left, right⟩ : ∃ u, pairs.outcome? = some u ∧ u.left = Region.between 2 3 ∧
      u.right = Region.between 8 9 := ⟨_, rfl, by decide, by decide⟩
  exact ⟨u, h, left, right, members u (same _ perm ▸ h)⟩

end Combination

end SpatialGrammar
