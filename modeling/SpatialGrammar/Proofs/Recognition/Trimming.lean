import SpatialGrammar.Proofs.Order.Cut
import SpatialGrammar.Proofs.Recognition.Cluster.Lines
import SpatialGrammar.Proofs.Recognition.Limits

/-!
# Trimmed lines

A line that is too long for its array is trimmed against the region around it. Items in the
uncertain part of the region are taken out first, from the end of the line, then its end is cut off.
If the uncertain part lies behind the certain one, the rest is a line, too; if it lies in front and
not all of it is taken out, there is a hole. Main statement: `trimmed_lines`, what is left of a line
and when it is one.
-/

namespace SpatialGrammar.Recognition

section lists

variable {β : Type} {test : β → Bool} {xs ys : List β}

/-- The last element that passes a test is dropped. -/
lemma exists_of_dropLastSuch? (h : dropLastSuch? test xs = some ys) :
    ∃ front x back, xs = front ++ x :: back ∧ test x = true ∧ (∀ y ∈ back, test y = false) ∧
      ys = front ++ back := by
  simp only [dropLastSuch?, Option.ite_none_right_eq_some] at h
  obtain ⟨passes, eq⟩ := h
  obtain ⟨a, ha, test_a⟩ := List.any_eq_true.1 passes
  obtain ⟨x, behind, before, later, test_x, whole, dropped⟩ :=
    List.exists_of_eraseP (List.mem_reverse.2 ha) test_a
  refine ⟨before.reverse, x, behind.reverse, ?_, test_x, fun y hy => ?_, ?_⟩
  · rw [← List.reverse_reverse xs, whole]
    simp
  · simpa using later y (List.mem_reverse.1 hy)
  · rw [← Option.some.inj eq, dropped, List.reverse_append]

end lists

variable {α : Type} {shape : ArrayShape} {size : Option Extent} {region : Option Region}
variable {items line trimmed : Items α} {s : Scene α} {side : Side}

section trim

/-- Whether an item lies in the uncertain part of a region, if there is a certain part. -/
def isUncertain (region : Option Region) (i : Match α) : Bool :=
  (region.filter fun r => r.minimal?.isSome).any fun r => r.onlyMayContain i.box

/-- What trimming leaves of some items: behind a place, uncertain items are missing, then the end
is. -/
def IsTrimmed (region : Option Region) (items trimmed : Items α) : Prop :=
  ∃ kept rest, items = kept ++ rest ∧
    trimmed <+: kept ++ rest.filter fun i => !isUncertain region i

/-- Items in the uncertain part are taken out from the end of the line. -/
lemma trimProbable_eq (shape : ArrayShape) (size : Option Extent) (r : Region) (items : Items α) :
    ∃ kept rest, items = kept ++ rest ∧
      trimProbable shape size r items = kept ++ rest.filter fun i => !r.onlyMayContain i.box := by
  fun_induction trimProbable shape size r items with
  | case1 items large fewer eq _ ih =>
    obtain ⟨front, x, back, rfl, uncertain, certain, rfl⟩ := exists_of_dropLastSuch? eq
    obtain ⟨kept, rest, split, left⟩ := ih
    rw [left]
    -- the place behind which items are missing lies in front of the dropped item or moves there
    rcases List.append_eq_append_iff.1 split with ⟨middle, rfl, rfl⟩ | ⟨middle, rfl, rfl⟩
    · have whole : ∀ ys : Items α, (∀ y ∈ ys, r.onlyMayContain y.box = false) →
          ys.filter (fun i => !r.onlyMayContain i.box) = ys := fun ys h =>
        List.filter_eq_self.2 fun y hy => by simp [h y hy]
      refine ⟨front, x :: (middle ++ rest), rfl, ?_⟩
      rw [List.filter_cons_of_neg (by simp [uncertain]), whole (middle ++ rest) certain,
        whole rest fun y hy => certain y (List.mem_append_right _ hy), List.append_assoc]
    · refine ⟨kept, middle ++ x :: back, List.append_assoc _ _ _, ?_⟩
      rw [List.filter_append, List.filter_append, List.filter_cons_of_neg (by simp [uncertain])]
  | case2 items large eq => exact ⟨items, [], by simp, by simp⟩
  | case3 items small => exact ⟨items, [], by simp, by simp⟩

/-- The end is cut off. -/
lemma trimEnd_isPrefix (shape : ArrayShape) (size : Option Extent) (items : Items α) :
    trimEnd shape size items <+: items := by
  fun_induction trimEnd shape size items with
  | case1 => exact List.nil_prefix
  | case2 m rest large ih => exact ih.trans (List.dropLast_prefix _)
  | case3 m rest small => exact List.prefix_rfl

lemma isTrimmed_of_isPrefix (h : trimmed <+: items) : IsTrimmed region items trimmed :=
  ⟨items, [], (List.append_nil items).symm, by simpa using h⟩

lemma isTrimmed_of_trim? (h : trim? shape size region items = some trimmed) :
    IsTrimmed region items trimmed := by
  simp only [trim?, Option.ite_none_right_eq_some] at h
  rw [← Option.some.inj h.2]
  split
  next r bounded =>
    obtain ⟨kept, rest, split, left⟩ := trimProbable_eq shape size r items
    refine ⟨kept, rest, split, (trimEnd_isPrefix _ _ _).trans ?_⟩
    simp only [isUncertain, bounded]
    rw [left]
    exact List.prefix_rfl
  next => exact isTrimmed_of_isPrefix (trimEnd_isPrefix _ _ _)

/-- What becomes of a cluster in a context is what trimming leaves of it. -/
lemma isTrimmed_of_mem_accept (h : trimmed ∈ accept s shape true size region items) :
    IsTrimmed region items trimmed := by
  unfold accept at h
  split at h
  next => exact isTrimmed_of_isPrefix (List.mem_singleton.1 h ▸ List.prefix_rfl)
  next => cases h
  next => exact isTrimmed_of_trim? (Option.mem_toList.1 h)

lemma IsTrimmed.sublist (h : IsTrimmed region items trimmed) : trimmed.Sublist items := by
  obtain ⟨kept, rest, rfl, front⟩ := h
  exact front.sublist.trans (List.filter_sublist.append_left kept)

/-- If uncertain items come last, trimming only cuts off the end. -/
lemma IsTrimmed.of_behind (h : IsTrimmed region items trimmed)
    (behind : items.Pairwise fun i j => isUncertain region i → isUncertain region j) :
    trimmed <+: items := by
  obtain ⟨kept, rest, rfl, front⟩ := h
  refine front.trans ((List.prefix_append_right_inj kept).2 ?_)
  exact Cut.filter_not_of_behind (List.pairwise_append.1 behind).2.1

/-- If uncertain items come first and none of them is left, there is no hole. -/
lemma IsTrimmed.of_before (h : IsTrimmed region items trimmed)
    (before : items.Pairwise fun i j => isUncertain region j → isUncertain region i)
    (certain : ∀ i ∈ trimmed, isUncertain region i = false) : trimmed <:+: items := by
  obtain ⟨kept, rest, rfl, front⟩ := h
  cases kept with
  | nil => exact front.isInfix.trans (Cut.filter_not_of_before before).isInfix
  | cons i kept =>
    cases trimmed with
    | nil => exact List.nil_infix
    | cons j trimmed =>
      -- the line begins with a certain item, so that all of its items are certain
      obtain ⟨rfl, -⟩ := List.cons_prefix_cons.1 front
      have first := certain j (List.mem_cons_self ..)
      have all : rest.filter (fun i => !isUncertain region i) = rest := by
        refine List.filter_eq_self.2 fun k hk => ?_
        have uncertain := (List.pairwise_cons.1 before).1 k (List.mem_append_right _ hk)
        rw [Bool.not_eq_true', Bool.eq_false_iff]
        exact fun hn => Bool.eq_false_iff.1 first (uncertain hn)
      rw [all] at front
      exact front.isInfix

end trim

section layout

/-- The side along which the items of a layout line up, if they all line up along the same one. -/
def lineSide? : Layout → Option Side
  | .row => some .right
  | .column => some .bottom
  | .fill | .auto => none

lemma clusters_eq_lines (along : lineSide? shape.layout = some side) :
    clusters shape items = Cluster.lines Match.box shape.gap side items := by
  cases layout : shape.layout with
  | row =>
    rw [layout] at along
    obtain rfl : Side.right = side := Option.some.inj along
    rw [clusters, layout]
  | column =>
    rw [layout] at along
    obtain rfl : Side.bottom = side := Option.some.inj along
    rw [clusters, layout]
  | fill =>
    rw [layout] at along
    cases along
  | auto =>
    rw [layout] at along
    cases along

/-- Items of a line are in the order of their rows, then of their columns. -/
lemma inRowOrder_of_sublist {gap : Interval} (h : Cluster.IsLine Match.box gap side line)
    (part : trimmed.Sublist line) : Match.inRowOrder trimmed = trimmed := by
  refine List.mergeSort_of_pairwise ?_
  refine (h.ordered.sublist part).imp_of_mem fun {i j} hi hj along => ?_
  have level := h.level i (part.subset hi) j (part.subset hj)
  unfold Cluster.alongCoordinate at along
  unfold Cluster.crossCoordinate at level
  simp only [Match.rowMajor, Bool.or_eq_true, Bool.and_eq_true, decide_eq_true_eq]
  cases horizontal : side.isHorizontal with
  | true =>
    rw [horizontal, if_pos rfl, if_pos rfl] at level along
    exact .inr ⟨level, along⟩
  | false =>
    rw [horizontal, if_neg Bool.false_ne_true, if_neg Bool.false_ne_true] at level along
    omega

end layout

section found

variable [Score α] {p : Pattern α} {ms : List (Match α)} {m : Match α}

/-- What is found for an array in a context that is a row or a column is what trimming leaves of a
line of candidates. If in the line the items in the uncertain part of the region come last, or if
they come first and none of them is left, it is a line, too. -/
theorem trimmed_lines (h : arrayMatches s p shape true region = .ok ms) (hm : m ∈ ms)
    (along : lineSide? shape.layout = some side) :
    ∃ line ∈ clusters shape (s.registry.namedIn shape.item region),
      Cluster.IsLine Match.box shape.gap side line ∧ IsTrimmed region line m.items ∧
      ((line.Pairwise fun i j => isUncertain region i → isUncertain region j) →
        Cluster.IsLine Match.box shape.gap side m.items) ∧
      ((line.Pairwise fun i j => isUncertain region j → isUncertain region i) →
        (∀ i ∈ m.items, isUncertain region i = false) →
          Cluster.IsLine Match.box shape.gap side m.items) := by
  obtain ⟨line, inside, trimmed, accepted, -, rfl⟩ := exists_accepted_of_arrayMatches h hm
  have unbroken := Cluster.isLine_of_mem_lines (clusters_eq_lines along ▸ inside)
  have left := isTrimmed_of_mem_accept accepted
  have items : (Match.ofItems p.name trimmed).items = trimmed :=
    inRowOrder_of_sublist unbroken left.sublist
  rw [items]
  refine ⟨line, inside, unbroken, left, fun behind => ?_, fun before certain => ?_⟩
  · exact unbroken.within (left.of_behind behind).isInfix
  · exact unbroken.within (left.of_before before certain)

end found

section witness

/-- Whatever a computation finds first has been found. -/
lemma exists_of_first {β : Type} {found : Except Fault (List (Match α))} {f : Match α → β} {b : β}
    (h : (found.toOption.bind fun ms => ms.head?.map f) = some b) :
    ∃ ms m, found = .ok ms ∧ m ∈ ms ∧ f m = b := by
  obtain ⟨ms, matched, first⟩ := Option.bind_eq_some_iff.1 h
  obtain ⟨m, first, eq⟩ := Option.map_eq_some_iff.1 first
  exact ⟨ms, m, Outcome.toOption_eq_some.1 matched, List.mem_of_mem_head? first, eq⟩

/-- Of four digits, the last two of which lie in the uncertain part, the last one is taken out. -/
theorem trimmed_lines_row :
    let shape := { item := "digit", layout := .row, itemCount := Interval.atMost 3 }
    let region := some (Region.ofExtents ⟨0, 0, 2, 1⟩ ⟨0, 0, 4, 1⟩)
    ∃ ms m, arrayMatches fiveDigits threeDigits shape true region = .ok ms ∧ m ∈ ms ∧
      m.items.map Match.box = [Box.unit 0 0, Box.unit 1 0, Box.unit 2 0] ∧
      Cluster.IsLine Match.box shape.gap .right m.items := by
  intro shape region
  have found : ((arrayMatches fiveDigits threeDigits shape true region).toOption.bind fun ms =>
      ms.head?.map fun m => m.items.map Match.box) =
        some [Box.unit 0 0, Box.unit 1 0, Box.unit 2 0] := by
    cbv
  have behind : (clusters shape (fiveDigits.registry.namedIn shape.item region)).all (fun line =>
      decide (line.Pairwise fun i j => isUncertain region i → isUncertain region j)) = true := by
    cbv
  obtain ⟨ms, m, matched, mem, boxes⟩ := exists_of_first found
  obtain ⟨line, inside, -, -, unbroken, -⟩ := trimmed_lines matched mem rfl
  exact ⟨ms, m, matched, mem, boxes,
    unbroken (of_decide_eq_true (List.all_eq_true.1 behind line inside))⟩

/-- A row of at most four digits. -/
def fourDigits : Pattern ℚ where
  name := "row"
  kind := .arrayInContext { item := "digit", layout := .row, itemCount := Interval.atMost 4 }

/-- The scene with five digits in a row, for rows of at most four. -/
def fiveDigitsForFour : Scene ℚ :=
  let patterns := ⟨[("digit", { name := "digit", kind := .cell "d" }), ("row", fourDigits)]⟩
  { fiveDigits with grammar := { fiveDigits.grammar with patterns } }

/-- If uncertain items come first and only some of them have to go, the last one of these goes, which
leaves a hole. -/
theorem trimmed_with_hole :
    let shape := { item := "digit", layout := .row, itemCount := Interval.atMost 4 }
    let region := some (Region.ofExtents ⟨2, 0, 3, 1⟩ ⟨0, 0, 5, 1⟩)
    fourDigits.kind = .arrayInContext shape ∧
      (fiveDigitsForFour.registry.namedIn shape.item region).Pairwise Match.Apart ∧
      ∃ ms m, arrayMatches fiveDigitsForFour fourDigits shape true region = .ok ms ∧ m ∈ ms ∧
        ¬ m.items.IsChain fun i j => Cluster.isAdjacent shape.gap .right i.box j.box = true := by
  intro shape region
  have found : ((arrayMatches fiveDigitsForFour fourDigits shape true region).toOption.bind
      fun ms => ms.head?.map fun m => m.items.map Match.box) =
        some [Box.unit 0 0, Box.unit 2 0, Box.unit 3 0, Box.unit 4 0] := by
    cbv
  have apart : decide ((fiveDigitsForFour.registry.namedIn shape.item region).Pairwise
      Match.Apart) = true := by
    cbv
  obtain ⟨ms, m, matched, mem, boxes⟩ := exists_of_first found
  refine ⟨rfl, of_decide_eq_true apart, ms, m, matched, mem, fun unbroken => ?_⟩
  have chain : (m.items.map Match.box).IsChain fun b c =>
      Cluster.isAdjacent shape.gap .right b c = true := (List.isChain_map Match.box).2 unbroken
  rw [boxes] at chain
  revert chain
  decide

end witness

end SpatialGrammar.Recognition
