import SpatialGrammar.Constraint.Kleene
import SpatialGrammar.Constraint.Variable

/-!
# Formulas

Comparisons between integer terms over variables, and their combinations by logical connectives.
A formula is evaluated in three-valued logic: a comparison is unknown while one of its variables
has no value. Text forms are read in `Formula.Reader`.
-/

namespace SpatialGrammar

/-- An integer term. -/
inductive Term where
  | number (n : Int)
  | var (v : Variable)
  | add (a b : Term)
  | sub (a b : Term)
  | mul (a b : Term)
  | neg (a : Term)
  deriving DecidableEq, Repr

namespace Term

/-- The value of a term, if its variables have values. -/
def value? (ρ : Assignment) : Term → Option Int
  | number n => some n
  | var v => ρ v
  | add a b => do return (← a.value? ρ) + (← b.value? ρ)
  | sub a b => do return (← a.value? ρ) - (← b.value? ρ)
  | mul a b => do return (← a.value? ρ) * (← b.value? ρ)
  | neg a => do return -(← a.value? ρ)

/-- The workings of an operation on two terms; the second term is not looked at unless the first
has a value. -/
def workingsOf (op : Int → Int → Int) (a b : Option Int) (wa wb : List Int) : List Int :=
  match a, b with
  | none, _ => wa
  | some _, none => wa ++ wb
  | some x, some y => wa ++ wb ++ [op x y]

/-- The integers that the evaluation of a term passes through. -/
def workings (ρ : Assignment) : Term → List Int
  | number _ => []
  | var _ => []
  | add a b => workingsOf (· + ·) (a.value? ρ) (b.value? ρ) (a.workings ρ) (b.workings ρ)
  | sub a b => workingsOf (· - ·) (a.value? ρ) (b.value? ρ) (a.workings ρ) (b.workings ρ)
  | mul a b => workingsOf (· * ·) (a.value? ρ) (b.value? ρ) (a.workings ρ) (b.workings ρ)
  | neg a => a.workings ρ ++ ((neg a).value? ρ).toList

/-- The variables of a term, as often as they occur. -/
def mentions : Term → List Variable
  | number _ => []
  | var v => [v]
  | add a b | sub a b | mul a b => a.mentions ++ b.mentions
  | neg a => a.mentions

/-- Puts a variable in the place of each variable. -/
def mapVariables (σ : Variable → Variable) : Term → Term
  | number n => number n
  | var v => var (σ v)
  | add a b => add (a.mapVariables σ) (b.mapVariables σ)
  | sub a b => sub (a.mapVariables σ) (b.mapVariables σ)
  | mul a b => mul (a.mapVariables σ) (b.mapVariables σ)
  | neg a => neg (a.mapVariables σ)

/-- The written form of a term: sums and differences stand in parentheses. -/
def text : Term → String
  | number n => Decimal.text n
  | var v => v.text
  | add a b => "(" ++ a.text ++ " + " ++ b.text ++ ")"
  | sub a b => "(" ++ a.text ++ " - " ++ b.text ++ ")"
  | mul a b => a.text ++ " * " ++ b.text
  | neg a => "-" ++ a.text

end Term

/-- A comparison of integers. -/
inductive Comparison where
  | lt
  | le
  | eq
  | ne
  | ge
  | gt
  deriving DecidableEq, Repr

namespace Comparison

/-- Whether two integers compare this way. -/
def holds (c : Comparison) (a b : Int) : Bool :=
  match c with
  | lt => decide (a < b)
  | le => decide (a ≤ b)
  | eq => decide (a = b)
  | ne => decide (a ≠ b)
  | ge => decide (a ≥ b)
  | gt => decide (a > b)

/-- The sign of a comparison. -/
def symbol : Comparison → String
  | lt => "<"
  | le => "<="
  | eq => "=="
  | ne => "!="
  | ge => ">="
  | gt => ">"

end Comparison

/-- A condition on integers that variables stand for. -/
inductive Formula where
  | const (b : Bool)
  | compare (a : Term) (c : Comparison) (b : Term)
  | within (a : Term) (range : Interval)
  | conj (items : List Formula)
  | disj (items : List Formula)
  | xor (a b : Formula)
  | not (a : Formula)

namespace Formula

mutual

/-- The truth value of a formula, as far as the values at hand decide it. -/
def value? (ρ : Assignment) : Formula → Option Bool
  | const b => some b
  | compare a c b => do return c.holds (← a.value? ρ) (← b.value? ρ)
  | within a range => do return range.contains (← a.value? ρ)
  | conj items => Kleene.all (values? ρ items)
  | disj items => Kleene.any (values? ρ items)
  | xor a b => Kleene.xor (a.value? ρ) (b.value? ρ)
  | not a => Kleene.not (a.value? ρ)

/-- The truth values of formulas. -/
def values? (ρ : Assignment) : List Formula → List (Option Bool)
  | [] => []
  | a :: rest => a.value? ρ :: values? ρ rest

end

mutual

/-- The integers that the evaluation of a formula passes through. -/
def workings (ρ : Assignment) : Formula → List Int
  | const _ => []
  | compare a _ b =>
    if (a.value? ρ).isNone then a.workings ρ else a.workings ρ ++ b.workings ρ
  | within a _ => a.workings ρ
  | conj items => workingsUntil ρ false items
  | disj items => workingsUntil ρ true items
  | xor a b => if (a.value? ρ).isNone then a.workings ρ else a.workings ρ ++ b.workings ρ
  | not a => a.workings ρ

/-- The workings of formulas that are looked at one by one, until one has a given value. -/
def workingsUntil (ρ : Assignment) (stop : Bool) : List Formula → List Int
  | [] => []
  | a :: rest =>
    if a.value? ρ = some stop then a.workings ρ else a.workings ρ ++ workingsUntil ρ stop rest

end

mutual

/-- The variables of a formula, as often as they occur. -/
def mentions : Formula → List Variable
  | const _ => []
  | compare a _ b => a.mentions ++ b.mentions
  | within a _ => a.mentions
  | conj items => mentionsOf items
  | disj items => mentionsOf items
  | xor a b => a.mentions ++ b.mentions
  | not a => a.mentions

/-- The variables of formulas, as often as they occur. -/
def mentionsOf : List Formula → List Variable
  | [] => []
  | a :: rest => a.mentions ++ mentionsOf rest

end

mutual

/-- Puts a variable in the place of each variable. -/
def mapVariables (σ : Variable → Variable) : Formula → Formula
  | const b => const b
  | compare a c b => compare (a.mapVariables σ) c (b.mapVariables σ)
  | within a range => within (a.mapVariables σ) range
  | conj items => conj (mapVariablesOf σ items)
  | disj items => disj (mapVariablesOf σ items)
  | xor a b => xor (a.mapVariables σ) (b.mapVariables σ)
  | not a => not (a.mapVariables σ)

/-- Puts a variable in the place of each variable of formulas. -/
def mapVariablesOf (σ : Variable → Variable) : List Formula → List Formula
  | [] => []
  | a :: rest => a.mapVariables σ :: mapVariablesOf σ rest

end

mutual

/-- The written form of a formula: connectives of several formulas stand in parentheses. -/
def text : Formula → String
  | const b => toString b
  | compare a c b => a.text ++ " " ++ c.symbol ++ " " ++ b.text
  | within a range => a.text ++ " in [" ++ range.text ++ "]"
  | conj items => "(" ++ joined " and " items ++ ")"
  | disj items => "(" ++ joined " or " items ++ ")"
  | xor a b => "(" ++ a.text ++ " xor " ++ b.text ++ ")"
  | not a => "not " ++ a.text

/-- The written forms of formulas with a word between them. -/
def joined (word : String) : List Formula → String
  | [] => ""
  | [a] => a.text
  | a :: rest => a.text ++ word ++ joined word rest

end

/-- The variables of a formula in ascending order. -/
def variableList (a : Formula) : List Variable := Variable.sorted a.mentions

/-- What the formula is called in messages. -/
def describe (a : Formula) : String := "expression `" ++ a.text ++ "`"

theorem values?_eq_map (ρ : Assignment) (items : List Formula) :
    values? ρ items = items.map (value? ρ) := by
  induction items with
  | nil => rfl
  | cons a rest ih => simp [values?, ih]

theorem mentionsOf_eq_flatMap (items : List Formula) :
    mentionsOf items = items.flatMap mentions := by
  induction items with
  | nil => rfl
  | cons a rest ih => simp [mentionsOf, ih]

theorem mapVariablesOf_eq_map (σ : Variable → Variable) (items : List Formula) :
    mapVariablesOf σ items = items.map (mapVariables σ) := by
  induction items with
  | nil => rfl
  | cons a rest ih => simp [mapVariablesOf, ih]

end Formula

/-- The outcome of an evaluation that insists on a value for every variable. -/
def strictValue (description : String) (needed : List Variable) (ρ : Assignment)
    (value : Option Bool) : Except ConstraintError Bool :=
  match needed.find? fun v => (ρ v).isNone with
  | some v => .error (.missingVariable description v.text)
  | none =>
    match value with
    | some b => .ok b
    | none => .error (.missingVariable description "<unknown>")

/-- The truth value of a formula all of whose variables have values. -/
def Formula.check (ρ : Assignment) (a : Formula) : Except ConstraintError Bool :=
  strictValue a.describe a.variableList ρ (a.value? ρ)

end SpatialGrammar
