import SpatialGrammar.Number.Binary

/-!
# Numbers with a fixed number of places

A double is written with a fixed number of decimal places, rounded to the nearest, halves to the
even neighbour.
-/

namespace SpatialGrammar.Fixed

/-- The digits of a number of units of the last place, with the point and a digit before it. -/
def placed (places units : Nat) : List Char :=
  let digits := Nat.toDigits 10 units
  let padded := List.replicate (places + 1 - digits.length) '0' ++ digits
  let whole := padded.length - places
  if places = 0 then padded else padded.take whole ++ '.' :: padded.drop whole

/-- The written form of a double with a number of places. -/
def text (places : Nat) (x : Float) : String :=
  match Binary.ofFloat x with
  | .notANumber => "NaN"
  | .infinite negative => if negative then "-inf" else "inf"
  | .finite negative mantissa exponent =>
    let (num, den) := Binary.powerQuotient 2 exponent
    let units := Binary.roundQuotient (mantissa * num * Nat.pow 10 places) den
    String.ofList ((if negative then ['-'] else []) ++ placed places units)

end SpatialGrammar.Fixed
