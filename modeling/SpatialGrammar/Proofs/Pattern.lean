import Mathlib.Tactic.Lemma
import SpatialGrammar.Pattern

/-!
# Counts of components

Which numbers of matches a component may bind, seen from the tests that the search makes. Main
statement: `Component.HasRoom.contains_of_admits`, a number that is large enough and at most the
greatest one is a possible one.
-/

namespace SpatialGrammar.Component

variable {α : Type} {c : Component α} {n : Nat}

/-- A component may bind at least one match. -/
def HasRoom (c : Component α) : Prop := ∀ most ∈ c.count.stop, 1 ≤ most

lemma HasRoom.contains_zero (room : c.HasRoom) (optional : c.isOptional = true) :
    c.count.contains 0 = true := by
  refine Interval.contains_iff.2 ⟨fun least hl => ?_, fun most hm => ?_⟩
  · simpa [isOptional, Option.mem_def.1 hl] using optional
  · exact Int.le_trans (by decide) (room most hm)

lemma contains_one (single : c.isRepeated = false) : c.count.contains 1 = true := by
  have stop : c.count.stop = some 1 := by simpa [isRepeated] using single
  refine Interval.contains_iff.2 ⟨fun least hl => ?_, fun most hm => ?_⟩
  · exact c.count.ordered least hl 1 stop
  · rw [stop] at hm
    exact Int.le_of_eq (Option.some.inj hm)

/-- A number of members that is large enough and at most the greatest one is a possible one. -/
lemma HasRoom.contains_of_admits (room : c.HasRoom) (enough : c.admitsCount n = true)
    (le : ∀ most ∈ c.maxCount, n ≤ most) : c.count.contains n = true := by
  refine Interval.contains_iff.2 ⟨fun least hl => ?_, fun most hm => ?_⟩
  · simpa [admitsCount, Option.mem_def.1 hl] using enough
  · have bound := le most.toNat (by simp [maxCount, Option.mem_def.1 hm])
    have positive := room most hm
    omega

lemma isRepeated_of_single (single : c.count = Interval.exact 1) : c.isRepeated = false := by
  simp [isRepeated, single, Interval.exact]

lemma isOptional_of_single (single : c.count = Interval.exact 1) : c.isOptional = false := by
  simp [isOptional, single, Interval.exact]

end SpatialGrammar.Component
