import SpatialGrammar.Number.Shortest
import SpatialGrammar.Number.Word

/-!
# Scores

The numbers in which confidences, weights and precisions are measured. The library computes with
doubles, and with rational numbers where exact results are wanted; both are instances of one class
of operations.
-/

namespace SpatialGrammar

/-- Numbers that can measure how well something matches. -/
class Score (α : Type) where
  zero : α
  one : α
  /-- What a sum starts from. -/
  neutral : α
  ofNat : Nat → α
  add : α → α → α
  mul : α → α → α
  div : α → α → α
  /-- Whether one number is less than another; numbers that cannot be compared are not. -/
  lt : α → α → Bool
  /-- Whether one number is at most another; numbers that cannot be compared are not. -/
  le : α → α → Bool
  /-- The greater one of two numbers. -/
  larger : α → α → α
  /-- A total order for sorting. -/
  sortLE : α → α → Bool
  /-- Whether a number can be a weight: it is neither negative nor infinite. -/
  isWeight : α → Bool
  /-- The written form of a number in messages. -/
  text : α → String

namespace Score

variable {α : Type} [Score α]

/-- The sum of numbers. -/
def sum (xs : List α) : α := xs.foldl add neutral

/-- The mean of numbers, zero if there are none. -/
def mean (xs : List α) : α := if xs.isEmpty then zero else div (sum xs) (ofNat xs.length)

/-- A part of a whole. -/
def share (part whole : Nat) : α := div (ofNat part) (ofNat whole)

end Score

/-- The place of a double in the total order by sign and magnitude. -/
def Float.sortKey (x : Float) : Int :=
  let bits : Nat := x.toBits.toNat
  if bits < Nat.pow 2 63 then bits else Word.greatest - bits

/-- The greater one of two doubles; a number that is none gives way to the other. -/
def Float.larger (x y : Float) : Float :=
  if x.isNaN then y else if y.isNaN then x else if x < y then y else x

instance : Score Float where
  zero := 0.0
  one := 1.0
  neutral := -0.0
  ofNat := Float.ofNat
  add x y := x + y
  mul x y := x * y
  div x y := x / y
  lt x y := decide (x < y)
  le x y := decide (x ≤ y)
  larger := Float.larger
  sortLE x y := decide (Float.sortKey x ≤ Float.sortKey y)
  isWeight x := x.isFinite && !decide (x < 0.0)
  text := Shortest.text

instance : Score Rat where
  zero := 0
  one := 1
  neutral := 0
  ofNat n := n
  add x y := x + y
  mul x y := x * y
  div x y := x / y
  lt x y := decide (x < y)
  le x y := decide (x ≤ y)
  larger x y := if x < y then y else x
  sortLE x y := decide (x ≤ y)
  isWeight x := decide (0 ≤ x)
  text := toString

end SpatialGrammar
