import SpatialGrammar.Regex.Reader.Basic
import SpatialGrammar.Text.Property
import SpatialGrammar.Text.Word

/-!
# Escapes

What a backslash and the characters behind it stand for: a character, a set of characters or an
assertion.
-/

namespace SpatialGrammar.Regex

/-- What a part of an expression that is no group stands for. -/
inductive Primitive where
  | char (c : Char)
  | set (s : CharSet)
  | assert (a : Assertion)

/-- The character of an escape by its code point: digits in braces, or a fixed number of them. Two
digits stand for an ASCII character where only those are admitted. -/
def readCodePoint (flags : Flags) (count : Nat) (cs : List Char) : Option (Char × List Char) :=
  match skip flags cs with
  | '{' :: rest => do
    let (digits, rest) ← takeBraced flags rest
    return (← charOfDigits? digits, rest)
  | rest => do
    let (digits, rest) ← takeCount flags count rest
    let c ← charOfDigits? digits
    if count = 2 ∧ ¬ flags.unicode ∧ 0x80 ≤ c.toNat then none else return (c, rest)

/-- The digits, blanks or word characters that an escape stands for. -/
def shorthand? (flags : Flags) : Char → Option CharSet
  | 'd' | 'D' =>
    some (if flags.unicode then Text.Category.decimalNumber.repertoire.members
      else CharSet.ofText "30-39")
  | 's' | 'S' =>
    some (if flags.unicode then Text.Property.whiteSpace.members else CharSet.ofText "9-D 20")
  | 'w' | 'W' => some (if flags.unicode then Text.wordChars else Text.asciiWordChars)
  | _ => none

/-- The character of an escape that stands for a control character. -/
def control? : Char → Option Char
  | 'n' => some '\n'
  | 't' => some '\t'
  | 'r' => some '\r'
  | 'a' => some '\x07'
  | 'f' => some '\x0c'
  | 'v' => some '\x0b'
  | _ => none

/-- Whether a backslash in front of a character stands for the character itself. -/
def isEscapable (c : Char) : Bool :=
  decide (c.toNat < 128) && !c.isAlphanum && c != '<' && c != '>'

/-- What stands before and behind the sign between a property and its value. -/
def cutProperty? (name : List Char) : Option (List Char × List Char) :=
  let atUnequal : List Char → Option (List Char × List Char) := fun name =>
    (List.range name.length).findSome? fun i =>
      if (name.drop i).take 2 = ['!', '='] then some (name.take i, name.drop (i + 2)) else none
  atUnequal name <|> Text.cut? (· == ':') name <|> Text.cut? (· == '=') name

/-- The set that a property name stands for, with a value of the property or alone. -/
def propertySet? (name : List Char) : Option CharSet :=
  let repertoire := match cutProperty? name with
    | some (property, value) => Text.Property.valued? property value
    | none => Text.Property.named? name
  repertoire.map Repertoire.members

/-- Reads the name of a property: one letter, or a name in braces. -/
def readPropertySet (flags : Flags) (cs : List Char) : Option (CharSet × List Char) :=
  match skip flags cs with
  | '{' :: rest => do
    let (name, rest) ← takeBraced flags rest
    return (← propertySet? name, rest)
  | '\\' :: _ | [] => none
  | c :: rest => (Text.Property.named? [c]).map fun r => (r.members, rest)

/-- The assertion about a word that a name in braces stands for. -/
def wordAssertion? (kind : WordKind) : String → Option Assertion
  | "start" => some (.wordStart kind)
  | "end" => some (.wordEnd kind)
  | "start-half" => some (.noWordBefore kind)
  | "end-half" => some (.noWordBehind kind)
  | _ => none

/-- Reads what may follow the escape of a word boundary: a name in braces. Braces that begin with
anything but a letter or a hyphen are a count of rounds and left alone. -/
def readWordAssertion (flags : Flags) (cs : List Char) : Option (Assertion × List Char) :=
  match cs with
  | '{' :: rest =>
    match skip flags rest with
    | [] => none
    | c :: _ =>
      if c.isAlpha || c == '-' then do
        let (name, rest) ← takeBraced flags rest
        return (← wordAssertion? flags.wordKind (String.ofList name), rest)
      else some (.wordBoundary flags.wordKind, cs)
  | cs => some (.wordBoundary flags.wordKind, cs)

/-- Reads an escape from behind its backslash. -/
def readEscape (flags : Flags) (cs : List Char) : Option (Primitive × List Char) :=
  let code (count : Nat) (rest : List Char) : Option (Primitive × List Char) :=
    (readCodePoint flags count rest).map fun (c, rest) => (.char c, rest)
  let property (negated : Bool) (rest : List Char) : Option (Primitive × List Char) := do
    if !flags.unicode then none
    let (set, rest) ← readPropertySet flags rest
    return (.set (← flags.negate? negated (flags.foldCase set)), rest)
  match cs with
  | 'x' :: rest => code 2 rest
  | 'u' :: rest => code 4 rest
  | 'U' :: rest => code 8 rest
  | 'p' :: rest => property false rest
  | 'P' :: rest => property true rest
  | 'A' :: rest => some (.assert .textStart, rest)
  | 'z' :: rest => some (.assert .textEnd, rest)
  | 'b' :: rest => (readWordAssertion flags rest).map fun (a, rest) => (.assert a, rest)
  | 'B' :: rest => some (.assert (.noWordBoundary flags.wordKind), rest)
  | '<' :: rest => some (.assert (.wordStart flags.wordKind), rest)
  | '>' :: rest => some (.assert (.wordEnd flags.wordKind), rest)
  | c :: rest =>
    match shorthand? flags c, control? c with
    | some set, _ => (flags.negate? c.isUpper set).map fun set => (.set set, rest)
    | none, some d => some (.char d, rest)
    | none, none => if isEscapable c then some (.char c, rest) else none
  | [] => none

end SpatialGrammar.Regex
