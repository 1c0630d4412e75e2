/-!
# Durations

A duration is a number of nanoseconds. It is written in the largest unit of which it has at least one,
with as many decimal places as it needs.
-/

namespace SpatialGrammar.Report.Duration

/-- Decimal places of a part of a unit, without the zeros at the end. -/
def places (width part : Nat) : String :=
  let digits := toString part
  let padded := List.replicate (width - digits.length) '0' ++ digits.toList
  String.ofList (padded.reverse.dropWhile (· == '0')).reverse

/-- A duration in a unit of a power of ten nanoseconds. -/
def inUnit (nanoseconds power : Nat) (unit : String) : String :=
  let fraction := places power (nanoseconds % Nat.pow 10 power)
  toString (nanoseconds / Nat.pow 10 power) ++ (if fraction.isEmpty then "" else "." ++ fraction) ++ unit

/-- The written form of a duration. -/
def text (nanoseconds : Nat) : String :=
  if 1000000000 ≤ nanoseconds then inUnit nanoseconds 9 "s"
  else if 1000000 ≤ nanoseconds then inUnit nanoseconds 6 "ms"
  else if 1000 ≤ nanoseconds then inUnit nanoseconds 3 "µs"
  else inUnit nanoseconds 0 "ns"

end SpatialGrammar.Report.Duration
