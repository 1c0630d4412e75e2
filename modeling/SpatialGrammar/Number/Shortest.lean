import SpatialGrammar.Number.Binary

/-!
# Shortest written forms of numbers

A double is written with the fewest significant digits that read back as the same double, and of
several such numbers with the one next to it. The digits stand in their places without exponent.
-/

namespace SpatialGrammar.Shortest

/-- A decimal number: digits and the exponent of ten of the last digit. -/
structure Decimal where
  digits : Nat
  exponent : Int
  deriving DecidableEq, Repr

/-- The position of the leading digit of a quotient: the least power of ten above it. -/
def leadingExponent (num den : Nat) : Int :=
  if den ≤ num then ((Nat.toDigits 10 (num / den)).length : Int)
  else
    -- behind the point, each further place multiplies by ten
    let places := (List.range 400).find? fun j => den ≤ num * Nat.pow 10 j
    1 - (places.getD 400 : Int)

/-- Of the two multiples of a power of ten next to a double, the nearer one that reads back as the
double. The double is `4 · mantissa` units of `unitNum / unitDen`. -/
def onGrid? (mantissa : Nat) (lowEdge : Nat) (unitNum unitDen : Nat) (exponent : Int) :
    Option Decimal :=
  let (stepNum, stepDen) := Binary.powerQuotient 10 exponent
  -- everything is compared in units of 1 / (unitDen * stepDen)
  let value := 4 * mantissa * unitNum * stepDen
  let low := lowEdge * unitNum * stepDen
  let high := (4 * mantissa + 2) * unitNum * stepDen
  let step := stepNum * unitDen
  let below := value / step
  let even := mantissa % 2 == 0
  let fits (n : Nat) : Bool :=
    let x := n * step
    decide (low < x) && decide (x < high) || even && (x == low || x == high)
  let above := below + 1
  match fits below && decide (0 < below), fits above with
  | true, true =>
    if value - below * step ≤ above * step - value then some ⟨below, exponent⟩
    else some ⟨above, exponent⟩
  | true, false => some ⟨below, exponent⟩
  | false, true => some ⟨above, exponent⟩
  | false, false => none

/-- The shortest decimal that reads back as `mantissa · 2 ^ exponent`. -/
def decimal (mantissa : Nat) (exponent : Int) : Decimal :=
  let (unitNum, unitDen) := Binary.powerQuotient 2 (exponent - 2)
  let lowEdge :=
    if mantissa = Nat.pow 2 52 ∧ -1074 < exponent then 4 * mantissa - 1 else 4 * mantissa - 2
  let leading := leadingExponent (4 * mantissa * unitNum) unitDen
  let found := (List.range 17).findSome? fun (k : Nat) =>
    onGrid? mantissa lowEdge unitNum unitDen (leading - (k + 1 : Int))
  match found.getD ⟨0, 0⟩ with
  -- rounding up to the next power of ten leaves a zero
  | ⟨10, exponent⟩ => ⟨1, exponent + 1⟩
  | d => d

/-- The digits of a decimal in their places. -/
def positional (d : Decimal) : List Char :=
  let digits := Nat.toDigits 10 d.digits
  if 0 ≤ d.exponent then digits ++ List.replicate d.exponent.toNat '0'
  else
    let places := (-d.exponent).toNat
    let padded := List.replicate (places + 1 - digits.length) '0' ++ digits
    let whole := padded.length - places
    padded.take whole ++ '.' :: padded.drop whole

/-- The shortest written form of a double. -/
def text (x : Float) : String :=
  match Binary.ofFloat x with
  | .notANumber => "NaN"
  | .infinite negative => if negative then "-inf" else "inf"
  | .finite negative mantissa exponent =>
    String.ofList ((if negative then ['-'] else [])
      ++ if mantissa = 0 then ['0'] else positional (decimal mantissa exponent))

end SpatialGrammar.Shortest
