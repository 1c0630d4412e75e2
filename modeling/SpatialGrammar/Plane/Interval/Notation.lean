import SpatialGrammar.Number.Decimal
import SpatialGrammar.Plane.Interval
import SpatialGrammar.Text.Blank

/-!
# The written forms of intervals

`3` is one number, `3+` the numbers from three up, `3-` those up to three, `3..5` (or `3,5`) those
between, and `*` all numbers; a star also stands for a missing end, as in `*..5`. Blanks may stand
around the whole, around the dots or comma, and before the closing sign.
-/

namespace SpatialGrammar

/-- The wording of an error in an interval. -/
def IntervalError.message : IntervalError → String
  | malformed text => "malformed range '" ++ text ++ "' (expected N, N+, N-, N..M, N,M or *)"
  | reversed start stop =>
    "reversed range: start " ++ Decimal.text start ++ " is greater than stop " ++ Decimal.text stop

namespace Interval

/-- The written form of an interval. -/
def chars (r : Interval) : List Char :=
  match r.start, r.stop with
  | none, none => ['*']
  | some a, some b => if a = b then Decimal.chars a else Decimal.chars a ++ ['.', '.'] ++ Decimal.chars b
  | some a, none => Decimal.chars a ++ ['+']
  | none, some b => Decimal.chars b ++ ['-']

/-- The written form of an interval as a text. -/
def text (r : Interval) : String := String.ofList r.chars

/-- The longest number in front, written with an optional minus sign, and what follows it. -/
def spanNumber (cs : List Char) : List Char × List Char :=
  match cs with
  | '-' :: ds => ('-' :: ds.takeWhile Char.isDigit, ds.dropWhile Char.isDigit)
  | ds => (ds.takeWhile Char.isDigit, ds.dropWhile Char.isDigit)

/-- Reads the end of an interval in front: a star, or a number that fits a word. -/
def readEnd? (cs : List Char) : Option (Option Int × List Char) :=
  match cs with
  | '*' :: rest => some (none, rest)
  | cs =>
    let (number, rest) := spanNumber cs
    (Decimal.word? number).map fun n => (some n, rest)

/-- The start and the stop that a text without blanks around it names, if it has a written form. -/
def readEnds? (cs : List Char) : Option (Option Int × Option Int) := do
  let (first, rest) ← readEnd? cs
  match Text.trimLeft rest with
  | [] => return (first, first)
  | ['+'] => return (some (← first), none)
  | ['-'] => return (none, some (← first))
  | '.' :: '.' :: rest => readStop? first rest
  | ',' :: rest => readStop? first rest
  | _ => none
where
  /-- Reads the stop behind the dots or the comma. -/
  readStop? (first : Option Int) (rest : List Char) : Option (Option Int × Option Int) := do
    let (second, rest) ← readEnd? (Text.trimLeft rest)
    if rest.isEmpty then return (first, second) else none

/-- Reads a written form. -/
def ofChars (cs : List Char) : Except IntervalError Interval :=
  match readEnds? (Text.trim cs) with
  | none => .error (.malformed (String.ofList cs))
  | some (start, stop) => ofEnds start stop

/-- Reads a written form given as a text. -/
def ofText (s : String) : Except IntervalError Interval := ofChars s.toList

end Interval

end SpatialGrammar
