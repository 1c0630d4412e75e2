import SpatialGrammar.Constraint.Formula
import SpatialGrammar.Constraint.Formula.Token

/-!
# Reading formulas

The language of formulas, from the loosest connective to the tightest:

    formula    := disj
    disj       := xor  (("or"  | "||") xor)*
    xor        := conj (("xor" | "^")  conj)*
    conj       := not  (("and" | "&&") not)*
    not        := ("not" | "!") not | atom
    atom       := "true" | "false" | "(" formula ")" | chain
    chain      := sum (comparison sum)+ | sum "in" "[" interval "]"
    sum        := product (("+" | "-") product)*
    product    := unary ("*" unary)*
    unary      := "-" unary | number | variable | "(" sum ")"

A parenthesis may open a formula or a term: it is read as a formula first, and as a term if that
fails or if the text goes on as a term would. A chain of comparisons stands for the conjunction of
its neighbouring pairs.
-/

namespace SpatialGrammar

/-- Why a token list is no formula. -/
inductive SyntaxError where
  | expectedRange
  | expectedComparison
  | expectedClosing
  | expectedOperand
  | trailingInput
  | unknownAttribute (text : String)
  | interval (error : IntervalError)
  /-- The reader gave up; its budgets are chosen so that this does not happen. -/
  | exhausted
  deriving DecidableEq, Repr

/-- The wording of a syntax error. -/
def SyntaxError.reason : SyntaxError → String
  | expectedRange => "expected [range] after 'in'"
  | expectedComparison => "expected a comparison"
  | expectedClosing => "expected ')'"
  | expectedOperand => "expected a number or a variable"
  | trailingInput => "trailing input"
  | unknownAttribute text => "unknown attribute '" ++ text ++ "'"
  | interval error => error.message
  | exhausted => "unexpected input"

/-- A budget of steps that reading a token list never uses up. -/
def readingBudget (ts : List Token) : Nat := 8 * ts.length + 8

namespace Term

/-- The variable that a word names. -/
def ofWord (word : String) : Except SyntaxError Term :=
  match Variable.ofText word with
  | .ok v => .ok (var v)
  | .error (.unknownAttribute text) => .error (.unknownAttribute text)
  | .error _ => .error .expectedOperand

mutual

/-- Reads a sum. -/
def readSum : Nat → List Token → Except SyntaxError (Term × List Token)
  | 0, _ => .error .exhausted
  | n + 1, ts => do
    let (a, ts) ← readProduct n ts
    readSumFrom n a ts

/-- Reads what is added to a first term and taken away from it. -/
def readSumFrom : Nat → Term → List Token → Except SyntaxError (Term × List Token)
  | 0, _, _ => .error .exhausted
  | n + 1, a, .sign .plus :: ts => do
    let (b, ts) ← readProduct n ts
    readSumFrom n (add a b) ts
  | n + 1, a, .sign .minus :: ts => do
    let (b, ts) ← readProduct n ts
    readSumFrom n (sub a b) ts
  | _ + 1, a, ts => .ok (a, ts)

/-- Reads a product. -/
def readProduct : Nat → List Token → Except SyntaxError (Term × List Token)
  | 0, _ => .error .exhausted
  | n + 1, ts => do
    let (a, ts) ← readUnary n ts
    readProductFrom n a ts

/-- Reads what a first term is multiplied by. -/
def readProductFrom : Nat → Term → List Token → Except SyntaxError (Term × List Token)
  | 0, _, _ => .error .exhausted
  | n + 1, a, .sign .times :: ts => do
    let (b, ts) ← readUnary n ts
    readProductFrom n (mul a b) ts
  | _ + 1, a, ts => .ok (a, ts)

/-- Reads a number, a variable, a negated term or a sum in parentheses. -/
def readUnary : Nat → List Token → Except SyntaxError (Term × List Token)
  | 0, _ => .error .exhausted
  | n + 1, .sign .minus :: ts => do
    let (a, ts) ← readUnary n ts
    return (neg a, ts)
  | n + 1, .sign .openParen :: ts => do
    match ← readSum n ts with
    | (a, .sign .closeParen :: ts) => return (a, ts)
    | _ => throw .expectedClosing
  | _ + 1, .number k :: ts => .ok (number k, ts)
  | _ + 1, .word name :: ts => do return (← ofWord name, ts)
  | _ + 1, _ => .error .expectedOperand

end

/-- Reads the term in front of a token list. -/
def read (ts : List Token) : Except SyntaxError (Term × List Token) := readSum (readingBudget ts) ts

end Term

namespace Comparison

/-- The comparison that a sign stands for. -/
def ofSign? : Sign → Option Comparison
  | .less => some lt
  | .lessEqual => some le
  | .equalEqual | .equal => some eq
  | .notEqual => some ne
  | .greaterEqual => some ge
  | .greater => some gt
  | _ => none

/-- The comparison in front of a token list. -/
def read? : List Token → Option (Comparison × List Token)
  | .sign s :: ts => (ofSign? s).map fun c => (c, ts)
  | _ => none

end Comparison

namespace Formula

/-- Whether a token list goes on in a way that only a term does. -/
def continuesTerm : List Token → Bool
  | .sign .plus :: _ | .sign .minus :: _ | .sign .times :: _ => true
  | .sign s :: _ => (Comparison.ofSign? s).isSome
  | .word "in" :: _ => true
  | _ => false

/-- Reads the comparisons that follow a term, each with the term to its left. -/
def readComparisons : Nat → Term → List Token → Except SyntaxError (List Formula × List Token)
  | 0, _, _ => .error .exhausted
  | n + 1, a, ts =>
    match Comparison.read? ts with
    | none => .ok ([], ts)
    | some (c, ts) => do
      let (b, ts) ← Term.read ts
      let (more, ts) ← readComparisons n b ts
      return (compare a c b :: more, ts)

/-- Reads a chain of comparisons or a membership in an interval. -/
def readChain (ts : List Token) : Except SyntaxError (Formula × List Token) := do
  let (a, ts) ← Term.read ts
  match ts with
  | .word "in" :: .bracket text :: ts =>
    match Interval.ofText text with
    | .ok range => return (within a range, ts)
    | .error e => throw (.interval e)
  | .word "in" :: _ => throw .expectedRange
  | ts =>
    match ← readComparisons (ts.length + 1) a ts with
    | ([], _) => throw .expectedComparison
    | ([only], ts) => return (only, ts)
    | (several, ts) => return (conj several, ts)

mutual

/-- Reads a disjunction. -/
def readDisj : Nat → List Token → Except SyntaxError (Formula × List Token)
  | 0, _ => .error .exhausted
  | n + 1, ts => do
    let (a, ts) ← readXor n ts
    let (more, ts) ← readAlternatives n ts
    return (if more.isEmpty then a else disj (a :: more), ts)

/-- Reads the further members of a disjunction. -/
def readAlternatives : Nat → List Token → Except SyntaxError (List Formula × List Token)
  | 0, _ => .error .exhausted
  | n + 1, .word "or" :: ts | n + 1, .sign .orOr :: ts => do
    let (a, ts) ← readXor n ts
    let (more, ts) ← readAlternatives n ts
    return (a :: more, ts)
  | _ + 1, ts => .ok ([], ts)

/-- Reads an exclusive disjunction. -/
def readXor : Nat → List Token → Except SyntaxError (Formula × List Token)
  | 0, _ => .error .exhausted
  | n + 1, ts => do
    let (a, ts) ← readConj n ts
    readXorFrom n a ts

/-- Reads the further members of an exclusive disjunction. -/
def readXorFrom : Nat → Formula → List Token → Except SyntaxError (Formula × List Token)
  | 0, _, _ => .error .exhausted
  | n + 1, a, .word "xor" :: ts | n + 1, a, .sign .caret :: ts => do
    let (b, ts) ← readConj n ts
    readXorFrom n (xor a b) ts
  | _ + 1, a, ts => .ok (a, ts)

/-- Reads a conjunction. -/
def readConj : Nat → List Token → Except SyntaxError (Formula × List Token)
  | 0, _ => .error .exhausted
  | n + 1, ts => do
    let (a, ts) ← readNot n ts
    let (more, ts) ← readConjuncts n ts
    return (if more.isEmpty then a else conj (a :: more), ts)

/-- Reads the further members of a conjunction. -/
def readConjuncts : Nat → List Token → Except SyntaxError (List Formula × List Token)
  | 0, _ => .error .exhausted
  | n + 1, .word "and" :: ts | n + 1, .sign .andAnd :: ts => do
    let (a, ts) ← readNot n ts
    let (more, ts) ← readConjuncts n ts
    return (a :: more, ts)
  | _ + 1, ts => .ok ([], ts)

/-- Reads a negation or an atom. -/
def readNot : Nat → List Token → Except SyntaxError (Formula × List Token)
  | 0, _ => .error .exhausted
  | n + 1, .word "not" :: ts | n + 1, .sign .bang :: ts => do
    let (a, ts) ← readNot n ts
    return (not a, ts)
  | n + 1, ts => readAtom n ts

/-- Reads a constant, a formula in parentheses or a chain. -/
def readAtom : Nat → List Token → Except SyntaxError (Formula × List Token)
  | 0, _ => .error .exhausted
  | _ + 1, .word "true" :: ts => .ok (const true, ts)
  | _ + 1, .word "false" :: ts => .ok (const false, ts)
  | n + 1, .sign .openParen :: ts =>
    match readDisj n ts with
    | .ok (a, .sign .closeParen :: rest) =>
      if continuesTerm rest then readChain (.sign .openParen :: ts) else .ok (a, rest)
    | _ => readChain (.sign .openParen :: ts)
  | _ + 1, ts => readChain ts

end

/-- Reads the formula in front of a token list. -/
def read (ts : List Token) : Except SyntaxError (Formula × List Token) := readDisj (readingBudget ts) ts

/-- The formula that a token list spells out from beginning to end. -/
def ofTokens (ts : List Token) : Except SyntaxError Formula := do
  match ← read ts with
  | (a, []) => return a
  | _ => throw .trailingInput

/-- Reads the written form of a formula. -/
def ofText (text : String) : Except ConstraintError Formula :=
  match Token.scan text.toList with
  | .error e => .error (.malformed text e.message)
  | .ok ts =>
    match ofTokens ts with
    | .ok a => .ok a
    | .error (.unknownAttribute word) => .error (.unknownAttribute word)
    | .error (.interval e) => .error (.interval e)
    | .error e => .error (.malformed text e.reason)

end Formula

end SpatialGrammar
