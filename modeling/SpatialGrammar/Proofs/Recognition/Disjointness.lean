import SpatialGrammar.Proofs.Recognition.Schedule
import SpatialGrammar.Proofs.Sheet

/-!
# Matches of one pattern do not overlap

What the matches that a run finds for one pattern occupy. Main statement: `found_apart`, on a sheet
that is made by writing and merging, and under any limits, no two of them have a grid point in
common.
-/

namespace SpatialGrammar.Recognition

variable {α : Type} [Score α] {s : Scene α} {p : Pattern α} {region : Option Region}
variable {ms : List (Match α)} {m n : Match α} {contentType : Name}

section cells

omit [Score α] in
/-- Cells that do not overlap have matches that do not. -/
lemma apart_of_boxes (hm : m.cells = [m]) (hn : n.cells = [n]) (h : m.box.Apart n.box) :
    m.Apart n := by
  intro q hq hq'
  rw [Match.mem_points, hm] at hq
  rw [Match.mem_points, hn] at hq'
  simp only [List.mem_singleton, exists_eq_left] at hq hq'
  exact h q hq hq'

lemma cellMatches_apart (tidy : s.cells.Pairwise fun c d => c.cell.box.Apart d.cell.box)
    (h : cellMatches s p contentType region = .ok ms) : ms.Pairwise Match.Apart := by
  simp only [cellMatches, Outcome.bind_eq_ok, Outcome.pure_eq_ok] at h
  obtain ⟨found, h, rfl⟩ := h
  refine Outcome.pairwise_of_mapM_option h tidy fun c d m n apart hm hn => ?_
  obtain ⟨_, _, _, rfl⟩ := cellMatch?_eq_some hm
  obtain ⟨_, _, _, rfl⟩ := cellMatch?_eq_some hn
  exact apart_of_boxes rfl rfl apart

end cells

/-- Arbitrated matches do not overlap. -/
lemma arbitrated_apart {candidates : Except Fault (List (Match α))} {limit : Option Nat}
    (h : (do return arbitrate limit (← candidates)) = .ok ms) : ms.Pairwise Match.Apart := by
  simp only [Outcome.bind_eq_ok, Outcome.pure_eq_ok] at h
  obtain ⟨found, -, rfl⟩ := h
  exact (arbitrate_apart _ found).2

/-- The matches of a pattern among cells that do not overlap do not overlap. -/
theorem patternMatches_apart (tidy : s.cells.Pairwise fun c d => c.cell.box.Apart d.cell.box)
    (h : patternMatches s p region = .ok ms) : ms.Pairwise Match.Apart := by
  unfold patternMatches at h
  split at h
  · exact cellMatches_apart tidy h
  · exact arbitrated_apart h
  · exact arbitrated_apart h
  · exact arbitrated_apart h
  · exact arbitrated_apart h

omit [Score α] in
lemma listed_apart (limit : Option Nat) (h : ms.Pairwise Match.Apart) :
    (listed limit ms).Pairwise Match.Apart := by
  have sorted : (ms.mergeSort fun m n => notListedAfter m.box n.box).Pairwise Match.Apart :=
    ((List.mergeSort_perm ms _).pairwise_iff Match.Apart.symm).2 h
  cases limit with
  | none => exact sorted
  | some most => exact sorted.take

omit [Score α] in
lemma enforceCount_apart (count : Interval) (h : ms.Pairwise Match.Apart) :
    (enforceCount count ms).Pairwise Match.Apart := by
  unfold enforceCount
  split
  · exact h
  · exact h.take

lemma recognisePattern_apart (tidy : s.cells.Pairwise fun c d => c.cell.box.Apart d.cell.box)
    (h : recognisePattern s p = .ok ms) : ms.Pairwise Match.Apart := by
  simp only [recognisePattern, Outcome.bind_eq_ok, Outcome.pure_eq_ok] at h
  obtain ⟨found, h, rfl⟩ := h
  exact enforceCount_apart p.count (listed_apart _ (patternMatches_apart tidy h))

omit [Score α] in
lemma classifyCells_apart {sheet : Sheet} (made : sheet.Made) (classifier : Classifier α) :
    (classifyCells classifier sheet).Pairwise fun c d => c.cell.box.Apart d.cell.box :=
  List.pairwise_map.2 made.cells_apart

/-- On a sheet that is made by writing and merging, the matches that are found for a pattern do not
overlap, whatever the grammar and the options are. In particular, those do not that a run
reports. -/
theorem found_apart {sheet : Sheet} (made : sheet.Made) (classifier : Classifier α)
    (g : Grammar α) (options : Options α) :
    (∀ registry p ms, recognisePattern
        { grammar := g, options, cells := classifyCells classifier sheet, registry } p = .ok ms →
      ms.Pairwise Match.Apart) ∧
    ∀ r, run g options (classifyCells classifier sheet) = .ok r →
      ∀ w ∈ r.waves, ∀ report ∈ w, report.found.Pairwise Match.Apart := by
  constructor
  · exact fun registry p ms h => recognisePattern_apart (classifyCells_apart made classifier) h
  · intro r ran w hw report mem
    obtain ⟨registry, name, p, -, -, h⟩ :=
      exists_of_mem_run ran (List.mem_flatten.2 ⟨w, hw, mem⟩)
    exact recognisePattern_apart (classifyCells_apart made classifier) h

/-- Two digits in a row are found, which do not overlap. -/
theorem found_apart_digits : twoDigits.Made ∧
    ∃ r, run fieldGrammar Options.standard (classifyCells (fun _ => [⟨"d", 1⟩]) twoDigits) = .ok r ∧
      ∃ w ∈ r.waves, ∃ report ∈ w, report.found.length = 2 ∧
        report.found.Pairwise Match.Apart := by
  have found : (run fieldGrammar Options.standard digitCells).toOption.any (fun r =>
      r.waves.any fun w => w.any fun report => report.found.length == 2) = true := by
    cbv
  obtain ⟨r, ran, found⟩ := Outcome.exists_of_any_toOption found
  obtain ⟨w, hw, found⟩ := List.any_eq_true.1 found
  obtain ⟨report, mem, two⟩ := List.any_eq_true.1 found
  exact ⟨made_twoDigits, r, ran, w, hw, report, mem, by simpa using two,
    (found_apart made_twoDigits _ _ _).2 r ran w hw report mem⟩

end SpatialGrammar.Recognition
