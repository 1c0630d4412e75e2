import SpatialGrammar.Number.Word

/-!
# Decimal integers

Writing an integer in base ten and reading one back. Main statements: `nat?_digits` and
`word?_chars`, reading what was written gives the same number.
-/

namespace SpatialGrammar.Decimal

/-- The digits of a natural number, most significant first; zero is one digit. -/
def digits (n : Nat) : List Char := Nat.toDigits 10 n

/-- The written form of an integer: its digits, behind a minus sign when it is negative. -/
def chars (n : Int) : List Char :=
  if n < 0 then '-' :: digits n.natAbs else digits n.natAbs

/-- The written form of an integer as a text. -/
def text (n : Int) : String := String.ofList (chars n)

/-- Reads one or more digits and nothing else. -/
def nat? (cs : List Char) : Option Nat :=
  if cs.isEmpty || !cs.all Char.isDigit then none else some (Nat.ofDigitChars 10 cs 0)

/-- Reads an optional minus sign and digits, refusing what no 64-bit word holds. -/
def word? (cs : List Char) : Option Int :=
  let signed : Option Int :=
    match cs with
    | '-' :: ds => (nat? ds).map fun (n : Nat) => -(n : Int)
    | ds => (nat? ds).map fun (n : Nat) => (n : Int)
  signed.filter Word.holds

theorem all_isDigit_digits (n : Nat) : (digits n).all Char.isDigit = true := by
  simp only [List.all_eq_true]
  intro c hc
  exact Nat.isDigit_of_mem_toDigits (by decide) (by decide) hc

theorem digits_ne_nil (n : Nat) : digits n ≠ [] := Nat.toDigits_ne_nil

theorem nat?_digits (n : Nat) : nat? (digits n) = some n := by
  have h : (digits n).isEmpty = false := by simp [digits_ne_nil]
  rw [nat?, h, all_isDigit_digits]
  simp [digits]

theorem head_digits_ne_minus (n : Nat) (cs : List Char) : digits n ≠ '-' :: cs := by
  intro h
  have hd := all_isDigit_digits n
  rw [h] at hd
  simp only [List.all_cons, Bool.and_eq_true] at hd
  exact absurd hd.1 (by decide)

/-- Reading a written word gives it back. -/
theorem word?_chars (n : Int) (h : Word.holds n = true) : word? (chars n) = some n := by
  unfold chars
  split
  · have e : -((n.natAbs : Nat) : Int) = n := by omega
    simp only [word?, nat?_digits, Option.map_some, e, Option.filter_some, h, if_true]
  · have e : ((n.natAbs : Nat) : Int) = n := by omega
    unfold word?
    split
    · rename_i ds hds
      exact absurd hds (head_digits_ne_minus _ _)
    · simp only [nat?_digits, Option.map_some, e, Option.filter_some, h, if_true]

end SpatialGrammar.Decimal
