/-!
# Machine words

Coordinates and counts live in signed 64-bit words. The library computes with unbounded integers;
a calculation that has to stay inside words lists the integers it passes through (its *workings*),
and `Word.holdsAll` says whether each of them fits.
-/

namespace SpatialGrammar.Word

/-- The least signed 64-bit word. -/
def least : Int := -9223372036854775808

/-- The greatest signed 64-bit word. -/
def greatest : Int := 9223372036854775807

/-- The greatest unsigned 64-bit word. -/
def greatestUnsigned : Int := 18446744073709551615

/-- Whether an integer fits a signed 64-bit word. -/
def holds (n : Int) : Bool := decide (least ≤ n) && decide (n ≤ greatest)

/-- Whether every integer of a calculation's workings fits a word. -/
def holdsAll (workings : List Int) : Bool := workings.all holds

/-- Whether an integer fits a signed 32-bit word, the size in which quarter turns are counted. -/
def holdsShort (n : Int) : Bool := decide (-2147483648 ≤ n) && decide (n ≤ 2147483647)

theorem holds_iff {n : Int} : holds n = true ↔ least ≤ n ∧ n ≤ greatest := by
  simp [holds]

theorem holdsAll_append (xs ys : List Int) :
    holdsAll (xs ++ ys) = (holdsAll xs && holdsAll ys) := by
  simp [holdsAll]

end SpatialGrammar.Word
