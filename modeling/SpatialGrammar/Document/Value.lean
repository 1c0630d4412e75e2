import SpatialGrammar.Document.Node
import SpatialGrammar.Number.Decimal
import SpatialGrammar.Number.Shortest
import SpatialGrammar.Text.Quoted

/-!
# Values of a document

What plain texts stand for: nothing, truth values, integers, real numbers or themselves. A value is
a tree all of whose texts have been looked at in this way and whose mappings have distinct keys.
-/

namespace SpatialGrammar.Document

/-- What a text of a document stands for. -/
inductive Scalar where
  | null
  | bool (b : Bool)
  | int (n : Int)
  | real (x : Float)
  | text (s : String)

namespace Scalar

/-- Whether a plain text stands for nothing. -/
def isNull (s : String) : Bool := s.isEmpty || ["null", "Null", "NULL", "~"].contains s

/-- The truth value that a plain text stands for. -/
def bool? (s : String) : Option Bool :=
  if ["true", "True", "TRUE"].contains s then some true
  else if ["false", "False", "FALSE"].contains s then some false
  else none

/-- Whether a character is a sign. -/
def isSign (c : Char) : Bool := c == '+' || c == '-'

/-- Whether a text consists of digits, the first of which is a superfluous zero. -/
def isPaddedNumber (cs : List Char) : Bool :=
  let ds := match cs with
    | c :: rest => if isSign c then rest else cs
    | [] => []
  match ds with
  | '0' :: d :: rest => (d :: rest).all Char.isDigit
  | _ => false

/-- Reads digits to a base and nothing else. -/
def digits? (base : Nat) (cs : List Char) : Option Nat :=
  if cs.isEmpty then none
  else cs.foldlM (fun n c => (hexDigit? c).bind fun d => if d < base then some (n * base + d) else none) 0

/-- Reads a number without sign, to the base that its first characters name. -/
def magnitude? (cs : List Char) : Option Nat :=
  match cs with
  | '0' :: 'x' :: rest => digits? 16 rest
  | '0' :: 'o' :: rest => digits? 8 rest
  | '0' :: 'b' :: rest => digits? 2 rest
  | _ => if isPaddedNumber cs then none else digits? 10 cs

/-- The integer that a plain text stands for; it has at most 128 bits. -/
def int? (s : String) : Option Int :=
  match s.toList with
  | '-' :: rest =>
    (magnitude? rest).bind fun n => if n ≤ Nat.pow 2 127 then some (-(n : Int)) else none
  | '+' :: rest => (magnitude? rest).bind fun n => if n < Nat.pow 2 128 then some (n : Int) else none
  | cs => (magnitude? cs).bind fun n => if n < Nat.pow 2 128 then some (n : Int) else none

/-- Reads the exponent of ten behind the digits of a number. -/
def exponent? (cs : List Char) : Option Int :=
  match cs with
  | [] => some 0
  | e :: rest =>
    if e == 'e' || e == 'E' then
      match rest with
      | '-' :: ds => (Decimal.nat? ds).map fun n => -(n : Int)
      | '+' :: ds => (Decimal.nat? ds).map fun n => (n : Int)
      | ds => (Decimal.nat? ds).map fun n => (n : Int)
    else none

/-- The double next to `digits · 10 ^ exponent`. Beyond the reach of doubles it is infinite or zero,
whatever the digits are. -/
def nearest (digits : Nat) (exponent : Int) : Float :=
  let size : Int := (Nat.toDigits 10 digits).length
  if digits = 0 ∨ size + exponent < -400 then 0.0
  else if 400 < size + exponent then 1.0 / 0.0
  else if 0 ≤ exponent then Float.ofScientific digits false exponent.toNat
  else Float.ofScientific digits true (-exponent).toNat

/-- Reads a decimal number without sign: digits, perhaps a point among them, and perhaps an exponent
of ten. -/
def decimal? (cs : List Char) : Option Float :=
  let whole := cs.takeWhile Char.isDigit
  let afterWhole := cs.dropWhile Char.isDigit
  let (places, rest) := match afterWhole with
    | '.' :: rest => (rest.takeWhile Char.isDigit, rest.dropWhile Char.isDigit)
    | rest => ([], rest)
  if whole.isEmpty && places.isEmpty then none
  else (exponent? rest).map fun e =>
    nearest (Nat.ofDigitChars 10 (whole ++ places) 0) (e - places.length)

/-- The number that a text stands for as far as real numbers are concerned. -/
def real? (s : String) : Option Float :=
  if [".inf", ".Inf", ".INF", "+.inf", "+.Inf", "+.INF"].contains s then some (1.0 / 0.0)
  else if ["-.inf", "-.Inf", "-.INF"].contains s then some (-(1.0 / 0.0))
  else if [".nan", ".NaN", ".NAN"].contains s then some (0.0 / 0.0)
  else
    let x := match s.toList with
      | '+' :: rest => decimal? rest
      | '-' :: rest => (decimal? rest).map fun x => -x
      | cs => decimal? cs
    x.filter Float.isFinite

/-- What a text stands for. -/
def ofText (plain : Bool) (s : String) : Scalar :=
  if !plain then text s
  else if isNull s then null
  else
    match bool? s, int? s with
    | some b, _ => bool b
    | none, some n => int n
    | none, none =>
      if isPaddedNumber s.toList then text s
      else
        match real? s with
        | some x => real x
        | none => text s

/-- The digits of a real number in messages: in their places if there are few of them, else with an
exponent of ten. -/
def digitText (mantissa : Nat) (exponent : Int) : List Char :=
  let d := Shortest.decimal mantissa exponent
  let digits := Nat.toDigits 10 d.digits
  let point : Int := digits.length + d.exponent
  if 0 ≤ d.exponent ∧ point ≤ 16 then Shortest.positional d ++ ['.', '0']
  else if -5 < point ∧ point ≤ 16 then Shortest.positional d
  else
    let behind := digits.drop 1
    digits.take 1 ++ (if behind.isEmpty then [] else '.' :: behind) ++ 'e' :: Decimal.chars (point - 1)

/-- The written form of a real number in messages. -/
def realText (x : Float) : String :=
  match Binary.ofFloat x with
  | .notANumber => ".nan"
  | .infinite negative => if negative then "-.inf" else ".inf"
  | .finite negative mantissa exponent =>
    String.ofList ((if negative then ['-'] else [])
      ++ if mantissa = 0 then ['0', '.', '0'] else digitText mantissa exponent)

/-- Whether two texts stand for the same. -/
def isSame : Scalar → Scalar → Bool
  | null, null => true
  | bool a, bool b => a == b
  | int a, int b => a == b
  | real a, real b => a == b || (a.isNaN && b.isNaN)
  | text a, text b => a == b
  | _, _ => false

/-- The written form of a scalar in messages. -/
def describe : Scalar → String
  | null => "Null"
  | bool b => "Bool(" ++ toString b ++ ")"
  | int n => "Number(" ++ Decimal.text n ++ ")"
  | real x => "Number(" ++ realText x ++ ")"
  | text s => "String(" ++ Text.quoted s ++ ")"

/-- The written form of a scalar that is a key of a written mapping. -/
def describeKey : Scalar → String
  | null => "Null"
  | bool b => toString b
  | int n => Decimal.text n
  | real x => realText x
  | text s => Text.quoted s

end Scalar

/-- A tree of values. -/
inductive Value where
  | scalar (s : Scalar)
  | sequence (items : List Value)
  /-- Keys and values in the order in which they stand; no key comes twice. -/
  | mapping (entries : List (Value × Value))

namespace Value

mutual

/-- Whether two trees have the same values, whatever the order of keys. -/
def isSame : Value → Value → Bool
  | scalar a, scalar b => a.isSame b
  | sequence as, sequence bs => areSame as bs
  | mapping as, mapping bs => as.length == bs.length && areAmong as bs
  | _, _ => false

/-- Whether two lists have the same trees in the same order. -/
def areSame : List Value → List Value → Bool
  | [], [] => true
  | a :: as, b :: bs => a.isSame b && areSame as bs
  | _, _ => false

/-- Whether all entries of one mapping are entries of another one. -/
def areAmong : List (Value × Value) → List (Value × Value) → Bool
  | [], _ => true
  | (key, value) :: rest, bs =>
    (bs.any fun b => key.isSame b.1 && value.isSame b.2) && areAmong rest bs

end

mutual

/-- The written form of a value in messages. -/
def describe : Value → String
  | scalar s => s.describe
  | sequence items => "Sequence [" ++ String.intercalate ", " (describeAll items) ++ "]"
  | mapping entries =>
    "Mapping \x7b" ++ String.intercalate ", " (describeEntries entries) ++ "\x7d"

/-- The written forms of values. -/
def describeAll : List Value → List String
  | [] => []
  | v :: rest => v.describe :: describeAll rest

/-- The written forms of keys and values. -/
def describeEntries : List (Value × Value) → List String
  | [] => []
  | (.scalar key, v) :: rest => (key.describeKey ++ ": " ++ v.describe) :: describeEntries rest
  | (key, v) :: rest => (key.describe ++ ": " ++ v.describe) :: describeEntries rest

end

/-- A value from its text, unless it is an integer that is too large. -/
def ofScalar? (plain : Bool) (text : String) : Option Value :=
  match Scalar.ofText plain text with
  | .int n =>
    if Word.least ≤ n ∧ n ≤ Word.greatestUnsigned then some (scalar (.int n)) else none
  | s => some (scalar s)

mutual

/-- The value of a node, unless a key comes twice. -/
def ofNode? : Node → Option Value
  | .scalar plain text => ofScalar? plain text
  | .sequence items => (ofNodes? items).map sequence
  | .mapping entries => (ofEntries? entries).map mapping

/-- The values of nodes. -/
def ofNodes? : List Node → Option (List Value)
  | [] => some []
  | node :: rest => do
    let value ← ofNode? node
    return value :: (← ofNodes? rest)

/-- The entries of a mapping. -/
def ofEntries? : List (Node × Node) → Option (List (Value × Value))
  | [] => some []
  | (key, node) :: rest => do
    let key ← ofNode? key
    let value ← ofNode? node
    let rest ← ofEntries? rest
    if rest.any fun entry => key.isSame entry.1 then none else return (key, value) :: rest

end

mutual

/-- The number of values in a tree, apart from keys. -/
def size : Value → Nat
  | scalar _ => 1
  | sequence items => sizeOfAll items + 1
  | mapping entries => sizeOfEntries entries + 1

/-- The number of values in some trees. -/
def sizeOfAll : List Value → Nat
  | [] => 0
  | v :: rest => v.size + sizeOfAll rest

/-- The number of values in the trees of a mapping. -/
def sizeOfEntries : List (Value × Value) → Nat
  | [] => 0
  | (_, v) :: rest => v.size + sizeOfEntries rest

end

end Value

end SpatialGrammar.Document
