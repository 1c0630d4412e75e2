/-!
# Bytes of encoded characters

The bytes of characters in UTF-8: characters that follow each other are encoded by a few sequences
of runs of bytes.
-/

namespace SpatialGrammar.Text

/-- A run of bytes, with its first and its last one. -/
abbrev ByteRun := Nat × Nat

/-- The sequences of runs of bytes for a run of code points that are written with a number of
further bytes of six bits each. The first byte has a mark added, the further ones `0x80`. -/
def byteRuns : Nat → Nat → Nat → Nat → List (List ByteRun)
  | 0, mark, first, last => [[(mark + first, mark + last)]]
  | further + 1, mark, first, last =>
    let unit := 64 ^ (further + 1)
    let low := first / unit
    let high := last / unit
    let inside (lead a b : Nat) : List (List ByteRun) :=
      (byteRuns further 0x80 a b).map fun runs => (mark + lead, mark + lead) :: runs
    if low = high then inside low (first % unit) (last % unit)
    else
      let cutsLow := decide (first % unit ≠ 0)
      let cutsHigh := decide (last % unit ≠ unit - 1)
      let wholeLow := if cutsLow then low + 1 else low
      let wholeHigh := if cutsHigh then high - 1 else high
      (if cutsLow then inside low (first % unit) (unit - 1) else [])
        ++ (if wholeLow ≤ wholeHigh then
          [(mark + wholeLow, mark + wholeHigh) :: List.replicate (further + 1) (0x80, 0xBF)]
        else [])
        ++ (if cutsHigh then inside high 0 (last % unit) else [])

/-- The encodings by their length: the first and the last code point, the number of further bytes
and the mark of the first byte. -/
def encodingLengths : List (Nat × Nat × Nat × Nat) :=
  [(0, 0x7F, 0, 0), (0x80, 0x7FF, 1, 0xC0), (0x800, 0xFFFF, 2, 0xE0), (0x10000, 0x10FFFF, 3, 0xF0)]

/-- The sequences of runs of bytes for a run of code points. -/
def encodedRun (run : Nat × Nat) : List (List ByteRun) :=
  encodingLengths.flatMap fun (low, high, further, mark) =>
    let first := max run.1 low
    let last := min run.2 high
    if first ≤ last then byteRuns further mark first last else []

/-- The bytes of characters. -/
def encodedBytes (cs : List Char) : List Nat :=
  cs.flatMap fun c => (String.utf8EncodeChar c).map UInt8.toNat

end SpatialGrammar.Text
