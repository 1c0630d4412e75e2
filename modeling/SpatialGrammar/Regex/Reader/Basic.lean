import SpatialGrammar.Number.Decimal
import SpatialGrammar.Regex.Basic
import SpatialGrammar.Text.Case

/-!
# Flags and small parts of written expressions

The flags under which an expression is read, and the parts in whose midst a verbose expression may
have blanks and comments: runs of digits and of hyphens, names in braces and counts.
-/

namespace SpatialGrammar.Regex

/-- What the flags of an expression switch on. -/
structure Flags where
  caseless : Bool := false
  multiline : Bool := false
  dotAll : Bool := false
  swapGreed : Bool := false
  unicode : Bool := true
  returns : Bool := false
  verbose : Bool := false
  deriving DecidableEq, Repr

namespace Flags

/-- The characters of which words consist. -/
def wordKind (flags : Flags) : WordKind := if flags.unicode then .unicode else .ascii

/-- The ASCII characters. -/
def ascii : CharSet := CharSet.ofText "0-7F"

/-- The set with the variants in case that the flags admit. -/
def foldCase (flags : Flags) (set : CharSet) : CharSet :=
  if flags.caseless then
    if flags.unicode then set.caseless else set.caseless.inter ascii
  else set

/-- The set or, where it is negated, its complement, which is refused where only ASCII characters
are admitted. -/
def negate? (flags : Flags) (negated : Bool) (set : CharSet) : Option CharSet :=
  if negated then if flags.unicode then some set.compl else none else some set

end Flags

/-- Drops blanks and comments. The first argument tells whether a comment goes on. -/
def skipBlanks : Bool → List Char → List Char
  | _, [] => []
  | true, c :: cs => skipBlanks (c != '\n') cs
  | false, c :: cs =>
    if Text.isBlank c then skipBlanks false cs
    else if c == '#' then skipBlanks true cs
    else c :: cs

/-- Drops blanks and comments where they do not count. -/
def skip (flags : Flags) (cs : List Char) : List Char :=
  if flags.verbose then skipBlanks false cs else cs

/-- Takes the characters in front that have a property; blanks and comments between and behind them
are dropped where they do not count. The second argument tells whether a comment goes on. -/
def takeWhile (flags : Flags) (p : Char → Bool) : Bool → List Char → List Char × List Char
  | _, [] => ([], [])
  | true, c :: cs => takeWhile flags p (c != '\n') cs
  | false, c :: cs =>
    if flags.verbose && Text.isBlank c then takeWhile flags p false cs
    else if flags.verbose && c == '#' then takeWhile flags p true cs
    else if p c then
      let (taken, rest) := takeWhile flags p false cs
      (c :: taken, rest)
    else ([], c :: cs)

/-- Takes the characters up to a closing brace, from behind the opening one. -/
def takeBraced (flags : Flags) (cs : List Char) : Option (List Char × List Char) :=
  match takeWhile flags (· != '}') false cs with
  | (name, '}' :: rest) => some (name, rest)
  | _ => none

/-- The value of a hexadecimal digit. -/
def hexValue? (c : Char) : Option Nat :=
  if c.isDigit then some (c.toNat - '0'.toNat)
  else if 'a' ≤ c ∧ c ≤ 'f' then some (c.toNat - 'a'.toNat + 10)
  else if 'A' ≤ c ∧ c ≤ 'F' then some (c.toNat - 'A'.toNat + 10)
  else none

/-- The character that hexadecimal digits stand for. -/
def charOfDigits? (cs : List Char) : Option Char := do
  if cs.isEmpty then none
  let digits ← cs.mapM hexValue?
  let n := digits.foldl (fun n d => 16 * n + d) 0
  if n.isValidChar then some (Char.ofNat n) else none

/-- Takes a number of characters; blanks and comments behind each are dropped where they do not
count. -/
def takeCount (flags : Flags) : Nat → List Char → Option (List Char × List Char)
  | 0, cs => some ([], cs)
  | _ + 1, [] => none
  | n + 1, c :: cs => (takeCount flags n (skip flags cs)).map fun (taken, rest) => (c :: taken, rest)

/-- The greatest count of rounds. -/
def maxCount : Nat := 4294967295

/-- Reads a count of rounds, with blanks around it. -/
def readCount (flags : Flags) (cs : List Char) : Option (Nat × List Char) := do
  let (digits, rest) := takeWhile flags Char.isDigit false (Text.trimLeft cs)
  let n ← Decimal.nat? digits
  if n ≤ maxCount then return (n, skip flags (Text.trimLeft rest)) else none

/-- Reads the least and the greatest number of rounds, from behind the opening brace to behind the
closing one. -/
def readCounts (flags : Flags) (cs : List Char) : Option ((Nat × Option Nat) × List Char) := do
  let (least, rest) ← readCount flags (skip flags cs)
  match rest with
  | '}' :: rest => return ((least, some least), rest)
  | ',' :: rest =>
    match skip flags rest with
    | '}' :: rest => return ((least, none), rest)
    | rest =>
      match ← readCount flags rest with
      | (most, '}' :: rest) => if least ≤ most then return ((least, some most), rest) else none
      | _ => none
  | _ => none

end SpatialGrammar.Regex
