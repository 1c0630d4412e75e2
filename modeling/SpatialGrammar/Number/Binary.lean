/-!
# Binary floating-point numbers, taken apart

A finite double is an integer multiple of a power of two. `Binary.ofFloat` gives the parts, and
the functions of this module compare and round such numbers in exact integer arithmetic.
-/

namespace SpatialGrammar

/-- What a double stands for. -/
inductive Binary where
  /-- The number `±mantissa · 2 ^ exponent`. -/
  | finite (negative : Bool) (mantissa : Nat) (exponent : Int)
  | infinite (negative : Bool)
  | notANumber
  deriving DecidableEq, Repr

namespace Binary

/-- Takes a double apart. -/
def ofFloat (x : Float) : Binary :=
  let bits := x.toBits.toNat
  let negative := bits / Nat.pow 2 63 == 1
  let biased : Nat := bits / Nat.pow 2 52 % Nat.pow 2 11
  let fraction : Nat := bits % Nat.pow 2 52
  if biased = 2047 then
    if fraction = 0 then infinite negative else notANumber
  else if biased = 0 then finite negative fraction (-1074)
  else finite negative (Nat.pow 2 52 + fraction) ((biased : Int) - 1075)

/-- The quotient of two natural numbers, rounded to the nearest integer; halves go to the even
neighbour. -/
def roundQuotient (num den : Nat) : Nat :=
  let quotient := num / den
  let twice := 2 * (num % den)
  if twice < den then quotient
  else if den < twice then quotient + 1
  else if quotient % 2 = 0 then quotient
  else quotient + 1

/-- A power with an exponent that may be negative, as a quotient of natural numbers. -/
def powerQuotient (base : Nat) (exponent : Int) : Nat × Nat :=
  if 0 ≤ exponent then (Nat.pow base exponent.toNat, 1)
  else (1, Nat.pow base (-exponent).toNat)

/-- A rounded quotient lies within half a unit of the quotient. -/
theorem two_mul_roundQuotient_le {num den : Nat} (h : 0 < den) :
    2 * (roundQuotient num den * den) ≤ 2 * num + den
      ∧ 2 * num ≤ 2 * (roundQuotient num den * den) + den := by
  have e := Nat.div_add_mod num den
  have l := Nat.mod_lt num h
  have c : den * (num / den) = num / den * den := Nat.mul_comm _ _
  unfold roundQuotient
  simp only
  split
  · constructor <;> omega
  · split
    · rw [Nat.add_mul]; constructor <;> omega
    · split
      · constructor <;> omega
      · rw [Nat.add_mul]; constructor <;> omega

end Binary

end SpatialGrammar
