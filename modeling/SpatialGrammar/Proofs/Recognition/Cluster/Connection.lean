import Mathlib.Algebra.Order.Group.Unbundled.Int
import Mathlib.Data.List.Sigma
import Mathlib.Logic.Relation
import SpatialGrammar.Proofs.Plane.Distance
import SpatialGrammar.Proofs.Recognition.Cluster

/-!
# Areas are connected components

Being neighbours is symmetric, and following neighbours breadth-first, from one item after the
other, sorts the items into the connected components of this relation. What carries the induction is
that no item that has been reached is related to one that is left. Main statements:
`areNeighbours_comm`, `areasFrom_components` and `fill_components`.
-/

namespace SpatialGrammar.Recognition.Cluster

open Relation (ReflTransGen)

variable {ι : Type} {gap : Interval} {b c : Box} {related : ι → ι → Bool} {start p q : ι × Nat}
variable {items more taken queue unseen pool starts : Numbered ι} {areas : List (Numbered ι)}
variable {room : Nat}

section neighbours

lemma areNeighbours_iff : areNeighbours gap b c = true ↔ ∃ s, isAdjacent gap s b c = true := by
  simp [areNeighbours, Side.mem_all]

/-- Boxes are neighbours of each other. -/
theorem areNeighbours_comm (gap : Interval) (b c : Box) :
    areNeighbours gap b c = areNeighbours gap c b := by
  have back : ∀ b c, areNeighbours gap b c = true → areNeighbours gap c b = true := by
    intro b c h
    obtain ⟨s, adjacent⟩ := areNeighbours_iff.1 h
    refine areNeighbours_iff.2 ⟨s.opposite, ?_⟩
    rwa [isAdjacent, Box.directionalGap?_opposite]
  exact Bool.eq_iff_iff.2 ⟨back b c, back c b⟩

end neighbours

section numbered

/-- The numbers of items tell them apart. -/
def ToldApart (items : Numbered ι) : Prop := (items.map (·.2)).Nodup

lemma toldApart_zipIdx (xs : List ι) : ToldApart xs.zipIdx := List.nodup_zipIdx_map_snd xs

lemma ToldApart.nodup (h : ToldApart items) : items.Nodup := List.Nodup.of_map _ h

lemma ToldApart.eq_of (h : ToldApart items) (hp : p ∈ items) (hq : q ∈ items)
    (same : p.2 = q.2) : p = q :=
  List.inj_on_of_nodup_map h hp hq same

/-- Some of the items are told apart if all of them are. -/
lemma ToldApart.subperm (h : ToldApart items) (part : taken.Subperm items) : ToldApart taken := by
  obtain ⟨same, perm, sub⟩ := part
  exact (perm.map _).nodup_iff.1 (h.sublist (sub.map _))

lemma not_mem_without (h : p ∈ taken) : p ∉ without items taken := by
  intro left
  simp only [without, List.mem_filter, Bool.not_eq_true', List.any_eq_false, beq_iff_eq] at left
  exact left.2 p h rfl

/-- Some of the items and those that are left without them are all items. -/
lemma append_without_perm (told : ToldApart items) (part : taken.Subperm items) :
    (taken ++ without items taken).Perm items := by
  have left : (without items taken).Nodup := told.nodup.filter _
  have distinct := List.nodup_append'.2
    ⟨(told.subperm part).nodup, left, fun _ here => not_mem_without here⟩
  refine (List.perm_ext_iff_of_nodup distinct told.nodup).2 fun q => ?_
  simp only [without, List.mem_append, List.mem_filter, Bool.not_eq_true', List.any_eq_false,
    beq_iff_eq]
  constructor
  · rintro (here | ⟨mem, -⟩)
    · exact part.subset here
    · exact mem
  · intro mem
    refine or_iff_not_imp_left.2 fun out => ⟨mem, fun p hp same => out ?_⟩
    exact told.eq_of (part.subset hp) mem same ▸ hp

end numbered

section chains

/-- Two of the items, the first of which is related to the second. -/
def Linked (related : ι → ι → Bool) (items : Numbered ι) (p q : ι × Nat) : Prop :=
  p ∈ items ∧ q ∈ items ∧ related p.1 q.1 = true

/-- A chain of related items leads from each of the items to every other one. -/
def IsConnected (related : ι → ι → Bool) (items : Numbered ι) : Prop :=
  ∀ p ∈ items, ∀ q ∈ items, ReflTransGen (Linked related items) p q

lemma chain_mono (sub : items ⊆ more) (chain : ReflTransGen (Linked related items) p q) :
    ReflTransGen (Linked related more) p q :=
  ReflTransGen.mono (fun _ _ ⟨hp, hq, link⟩ => ⟨sub hp, sub hq, link⟩) _ _ chain

lemma mem_of_chain (chain : ReflTransGen (Linked related items) p q) (hq : q ∈ items) :
    p ∈ items := by
  cases chain.cases_head with
  | inl same => exact same ▸ hq
  | inr first =>
    obtain ⟨_, ⟨hp, -⟩, -⟩ := first
    exact hp

/-- A chain of a symmetric relation can be followed back. -/
lemma chain_symm (symm : ∀ i j, related i j = related j i)
    (chain : ReflTransGen (Linked related items) p q) :
    ReflTransGen (Linked related items) q p := by
  induction chain with
  | refl => exact .refl
  | tail _ last ih =>
    obtain ⟨hp, hq, link⟩ := last
    exact .head ⟨hq, hp, (symm _ _).trans link⟩ ih

/-- Chains lead to all items that are taken from those in the queue. -/
lemma grow_linked (h : q ∈ grow related room queue pool) :
    ∃ p ∈ queue, ReflTransGen (Linked related (grow related room queue pool)) p q := by
  induction room generalizing queue pool with
  | zero => cases h
  | succ room ih =>
    cases queue with
    | nil => cases h
    | cons first queue =>
      rw [grow] at h ⊢
      cases h with
      | head => exact ⟨_, List.mem_cons_self, .refl⟩
      | tail _ h =>
        obtain ⟨p, hp, chain⟩ := ih h
        have wider := chain_mono (List.subset_cons_self first _) chain
        cases List.mem_append.1 hp with
        | inl queued => exact ⟨p, List.mem_cons_of_mem first queued, wider⟩
        | inr reached =>
          have link := (List.mem_filter.1 reached).2
          have hp := List.mem_cons_of_mem first (mem_of_chain chain h)
          exact ⟨first, List.mem_cons_self, .head ⟨List.mem_cons_self, hp, link⟩ wider⟩

/-- What is taken from one item on is connected. -/
lemma grow_connected (symm : ∀ i j, related i j = related j i) (room : Nat) (start : ι × Nat)
    (pool : Numbered ι) : IsConnected related (grow related room [start] pool) := by
  have from_start : ∀ q ∈ grow related room [start] pool,
      ReflTransGen (Linked related (grow related room [start] pool)) start q := by
    intro q hq
    obtain ⟨p, hp, chain⟩ := grow_linked hq
    exact List.mem_singleton.1 hp ▸ chain
  exact fun p hp q hq => (chain_symm symm (from_start p hp)).trans (from_start q hq)

end chains

section areas

/-- Without a limit as many items are taken as there are. -/
lemma spread_eq_grow (related : ι → ι → Bool) (queue unseen : Numbered ι) :
    (spread related queue unseen).1 =
      grow related (queue.length + unseen.length) queue unseen := by
  fun_induction spread related queue unseen with
  | case1 unseen => cases unseen <;> rfl
  | case2 unseen p queue reached left eq ih =>
    have sizes := length_reachedFrom_add related p.1 unseen
    rw [eq, List.length_append, Nat.add_assoc, sizes] at ih
    rw [List.length_cons, Nat.add_right_comm, grow, ← ih]

lemma spread_start (related : ι → ι → Bool) (start : ι × Nat) (unseen : Numbered ι) :
    (spread related [start] unseen).1 = grow related (unseen.length + 1) [start] unseen := by
  rw [spread_eq_grow, List.length_singleton, Nat.add_comm]

/-- No item that is reached is related to one that is left. -/
lemma spread_closed (related : ι → ι → Bool) (queue unseen : Numbered ι) :
    ∀ p ∈ (spread related queue unseen).1, ∀ q ∈ (spread related queue unseen).2,
      related p.1 q.1 = false := by
  fun_induction spread related queue unseen with
  | case1 unseen => exact List.forall_mem_nil _
  | case2 unseen p queue reached left eq ih =>
    have missed := spread_sublist related (queue ++ reachedFrom related p.1 unseen)
      (missedFrom related p.1 unseen)
    rw [eq] at ih missed
    refine List.forall_mem_cons.2 ⟨fun q hq => ?_, ih⟩
    simpa using (List.mem_filter.1 (missed.subset hq)).2

/-- Groups of items are the connected components of a relation: each item lies in one of them, the
items of each of them are connected, and those of two of them are not related. -/
structure AreComponents (related : ι → ι → Bool) (items : Numbered ι)
    (areas : List (Numbered ι)) : Prop where
  nonempty : [] ∉ areas
  partition : areas.flatten.Perm items
  connected : ∀ area ∈ areas, IsConnected related area
  apart : areas.Pairwise fun area other => ∀ p ∈ area, ∀ q ∈ other, related p.1 q.1 = false

/-- Two items share a component if and only if a chain leads from one to the other. -/
lemma AreComponents.chain_iff (h : AreComponents related items areas)
    (symm : ∀ i j, related i j = related j i) (hp : p ∈ items) :
    (∃ area ∈ areas, p ∈ area ∧ q ∈ area) ↔ ReflTransGen (Linked related items) p q := by
  have inside : ∀ area ∈ areas, area ⊆ items := fun area mem q hq =>
    h.partition.subset (List.mem_flatten.2 ⟨area, mem, hq⟩)
  have covered : ∀ q ∈ items, ∃ area ∈ areas, q ∈ area := fun q hq =>
    List.mem_flatten.1 (h.partition.mem_iff.2 hq)
  constructor
  · rintro ⟨area, mem, here, there⟩
    exact chain_mono (inside area mem) (h.connected area mem p here q there)
  · intro chain
    induction chain with
    | refl =>
      obtain ⟨area, mem, here⟩ := covered p hp
      exact ⟨area, mem, here, here⟩
    | tail _ last ih =>
      obtain ⟨-, hr, link⟩ := last
      obtain ⟨area, mem, here, there⟩ := ih
      obtain ⟨other, mem', next⟩ := covered _ hr
      -- the last link of the chain cannot lead into another component
      have : Std.Symm fun area other : Numbered ι =>
          ∀ p ∈ area, ∀ q ∈ other, related p.1 q.1 = false :=
        ⟨fun _ _ none q hq p hp => (symm _ _).trans (none p hp q hq)⟩
      by_cases same : area = other
      · exact ⟨area, mem, here, same ▸ next⟩
      · have none := h.apart.forall mem mem' same _ there _ next
        rw [link] at none
        cases none

/-- The areas that are begun by items which include all unseen ones are the connected components of
the unseen items. -/
theorem areasFrom_components (symm : ∀ i j, related i j = related j i) (told : ToldApart starts)
    (begun : unseen.Subperm starts) :
    AreComponents related unseen (areasFrom related starts unseen) := by
  induction starts generalizing unseen with
  | nil =>
    rw [List.subperm_nil.1 begun]
    exact ⟨List.not_mem_nil, .refl [], (fun _ mem => nomatch mem), .nil⟩
  | cons start rest ih =>
    have narrow : ∀ left : Numbered ι, left.Sublist unseen → start ∉ left → left.Subperm rest := by
      intro left sub out
      refine List.subperm_of_subset (told.subperm (sub.subperm.trans begun)).nodup fun q hq => ?_
      exact (List.mem_cons.1 (begun.subset (sub.subset hq))).resolve_left fun eq => out (eq ▸ hq)
    have told' := told.subperm (List.sublist_cons_self start rest).subperm
    rw [areasFrom]
    split
    next fresh =>
      obtain ⟨q, hq, same⟩ := List.any_eq_true.1 fresh
      have mem : start ∈ unseen :=
        told.eq_of (begun.subset hq) List.mem_cons_self (by simpa using same) ▸ hq
      have out : start ∉ without unseen [start] := by simp [without]
      have left := spread_sublist related [start] (without unseen [start])
      have whole := (spread_perm related [start] (without unseen [start])).trans
        (append_without_perm (told.subperm begun) (List.singleton_subperm_iff.2 mem))
      have closed := spread_closed related [start] (without unseen [start])
      have later := ih told' (narrow _ (left.trans (without_sublist _ _))
        fun mem => out (left.subset mem))
      refine ⟨?_, ?_, ?_, ?_⟩
      · refine List.not_mem_cons_of_ne_of_not_mem (fun none => ?_) later.nonempty
        rw [spread_start, grow] at none
        cases none
      · rw [List.flatten_cons]
        exact (later.partition.append_left _).trans whole
      · refine List.forall_mem_cons.2 ⟨?_, later.connected⟩
        rw [spread_start]
        exact grow_connected symm _ start _
      · refine List.pairwise_cons.2 ⟨fun other mem p hp q hq => ?_, later.apart⟩
        exact closed p hp q (later.partition.subset (List.mem_flatten.2 ⟨other, mem, hq⟩))
    next seen =>
      refine ih told' (narrow unseen (.refl _) fun mem => seen ?_)
      exact List.any_eq_true.2 ⟨start, mem, beq_self_eq_true start.2⟩

/-- Items are collected into the connected components of being neighbours, which is symmetric: each
item lies in exactly one area, none of which is empty, and two items share an area if and only if a
chain of neighbours joins them. -/
theorem fill_components (box : ι → Box) (gap : Interval) (items : List ι) :
    (∀ b c, areNeighbours gap b c = areNeighbours gap c b) ∧
      ∃ areas : List (Numbered ι),
        fill box gap items = areas.map (fun area => area.map (·.1)) ∧
        [] ∉ areas ∧
        areas.flatten.Perm items.zipIdx ∧
        ∀ p ∈ items.zipIdx, ∀ q ∈ items.zipIdx,
          (∃ area ∈ areas, p ∈ area ∧ q ∈ area) ↔
            ReflTransGen
              (Linked (fun i j => areNeighbours gap (box i) (box j)) items.zipIdx) p q := by
  have symm : ∀ i j, areNeighbours gap (box i) (box j) = areNeighbours gap (box j) (box i) :=
    fun i j => areNeighbours_comm gap (box i) (box j)
  have order : (items.zipIdx.mergeSort fun p q => rowMajor (box p.1) (box q.1)).Perm items.zipIdx :=
    List.mergeSort_perm _ _
  have told := (toldApart_zipIdx items).subperm order.subperm
  have components := areasFrom_components symm told order.symm.subperm
  exact ⟨areNeighbours_comm gap, _, rfl, components.nonempty, components.partition,
    fun _ hp _ _ => components.chain_iff symm hp⟩

end areas

end SpatialGrammar.Recognition.Cluster
