/-!
# Blocks

Sixty-four places that hold ones or zeros, of which sets of indices are made. Main statements:
`lowest_eq_ctz`, the lowest place that holds a one has as many zeros below it, and `mem_places`, the
listed places are those that hold ones.
-/

namespace SpatialGrammar

/-- Sixty-four places, each of which holds a one or a zero. -/
abbrev Block := BitVec 64

namespace Block

variable {b : Block} {i k : Nat}

/-- Whether a place holds a one. -/
def holds (b : Block) (k : Nat) : Bool := b &&& BitVec.twoPow 64 k != 0#64

/-- The lowest place that holds a one: as many zeros lie below it. The only one that a block has in
common with its negative is the lowest one. -/
def lowest (b : Block) : Nat := (b &&& -b).toNat.log2

/-- The block without its lowest one. -/
def clearLowest (b : Block) : Block := b &&& (b - 1#64)

/-- The number of ones. -/
def count (b : Block) : Nat := b.cpop.toNat

theorem clearLowest_lt (h : b ≠ 0#64) : b.clearLowest.toNat < b.toNat := by
  have pos : 0 < b.toNat := Nat.pos_of_ne_zero fun e => h (BitVec.eq_of_toNat_eq e)
  have le : b.clearLowest.toNat ≤ (b - 1#64).toNat := by
    rw [clearLowest, BitVec.toNat_and]
    exact Nat.and_le_right
  have pred : (b - 1#64).toNat = b.toNat - 1 := by
    apply BitVec.toNat_sub_of_le
    rw [BitVec.le_def]
    exact pos
  omega

/-- The places that hold ones, in ascending order: the lowest one is taken and cleared until none is
left. -/
def places (b : Block) : List Nat :=
  if h : b = 0#64 then []
  else
    have := clearLowest_lt h
    b.lowest :: places b.clearLowest
termination_by b.toNat

theorem holds_eq (b : Block) (hk : k < 64) : b.holds k = b.getLsbD k := by
  have ne : BitVec.twoPow 64 k ≠ 0#64 := by
    intro e
    have same := congrArg (fun x => BitVec.getLsbD x k) e
    simp [hk] at same
  rw [holds, BitVec.and_twoPow]
  cases b.getLsbD k <;> simp [ne]

/-- Below the place of a one of a block there is another one, or it is the lowest. -/
theorem exists_lt_iff (h : b ≠ 0#64) (hi : b.getLsbD i = true) :
    (∃ j, j < i ∧ b.getLsbD j = true) ↔ i ≠ b.ctz.toNat := by
  constructor
  · rintro ⟨j, lt, hj⟩ rfl
    rw [BitVec.getLsbD_false_of_lt_ctz lt] at hj
    cases hj
  · intro ne
    refine ⟨b.ctz.toNat, Nat.lt_of_le_of_ne ?_ ne.symm, BitVec.getLsbD_true_ctz_of_ne_zero h⟩
    apply Nat.le_of_not_lt
    intro lt
    rw [BitVec.getLsbD_false_of_lt_ctz lt] at hi
    cases hi

theorem and_neg_eq_twoPow (h : b ≠ 0#64) : b &&& -b = BitVec.twoPow 64 b.ctz.toNat := by
  apply BitVec.eq_of_getLsbD_eq
  intro i hi
  rw [BitVec.getLsbD_and, BitVec.getLsbD_neg, BitVec.getLsbD_twoPow]
  cases one : b.getLsbD i with
  | false =>
    have ne : ¬ b.ctz.toNat = i := by
      rintro rfl
      rw [BitVec.getLsbD_true_ctz_of_ne_zero h] at one
      cases one
    simp [ne]
  | true =>
    have lt := BitVec.lt_of_getLsbD (BitVec.getLsbD_true_ctz_of_ne_zero h)
    simp only [exists_lt_iff h one, hi, lt, decide_true, Bool.true_and, Bool.true_xor]
    by_cases e : i = b.ctz.toNat <;> simp [e, eq_comm]

/-- The lowest place of a one is the number of trailing zeros. -/
theorem lowest_eq_ctz (h : b ≠ 0#64) : b.lowest = b.ctz.toNat := by
  have lt := BitVec.lt_of_getLsbD (BitVec.getLsbD_true_ctz_of_ne_zero h)
  have pow : 2 ^ b.ctz.toNat < 2 ^ 64 := Nat.pow_lt_pow_right (by decide) lt
  rw [lowest, and_neg_eq_twoPow h, BitVec.toNat_twoPow, Nat.mod_eq_of_lt pow, Nat.log2_two_pow]

theorem getLsbD_clearLowest (h : b ≠ 0#64) :
    b.clearLowest.getLsbD i = (b.getLsbD i && decide (i ≠ b.lowest)) := by
  rw [clearLowest, ← BitVec.not_neg, BitVec.getLsbD_and, BitVec.getLsbD_not, BitVec.getLsbD_neg]
  cases one : b.getLsbD i with
  | false => rfl
  | true =>
    have hi := BitVec.lt_of_getLsbD one
    simp only [exists_lt_iff h one, lowest_eq_ctz h, hi]
    simp

theorem getLsbD_lowest (h : b ≠ 0#64) : b.getLsbD b.lowest = true := by
  rw [lowest_eq_ctz h]
  exact BitVec.getLsbD_true_ctz_of_ne_zero h

theorem lowest_le (hi : b.getLsbD i = true) : b.lowest ≤ i := by
  have h : b ≠ 0#64 := by
    rintro rfl
    simp at hi
  rw [lowest_eq_ctz h]
  apply Nat.le_of_not_lt
  intro lt
  rw [BitVec.getLsbD_false_of_lt_ctz lt] at hi
  cases hi

theorem mem_places : i ∈ b.places ↔ b.getLsbD i = true := by
  fun_induction places b with
  | case1 => simp
  | case2 b h _ ih =>
    rw [List.mem_cons, ih, getLsbD_clearLowest h, Bool.and_eq_true, decide_eq_true_eq]
    constructor
    · rintro (rfl | ⟨one, -⟩)
      · exact getLsbD_lowest h
      · exact one
    · intro one
      by_cases e : i = b.lowest
      · exact .inl e
      · exact .inr ⟨one, e⟩

end Block
end SpatialGrammar
