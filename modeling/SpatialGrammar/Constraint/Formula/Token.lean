import SpatialGrammar.Number.Decimal
import SpatialGrammar.Text.Blank
import SpatialGrammar.Text.Digit

/-!
# Tokens of formulas

A formula is written with integers, words, signs and bracketed intervals, with blanks between them
where they are wanted.
-/

namespace SpatialGrammar

/-- A sign of the language of formulas. -/
inductive Sign where
  | lessEqual
  | greaterEqual
  | equalEqual
  | notEqual
  | andAnd
  | orOr
  | less
  | greater
  | equal
  | bang
  | plus
  | minus
  | times
  | openParen
  | closeParen
  | caret
  deriving DecidableEq, Repr

/-- A token of the language of formulas. -/
inductive Token where
  | number (n : Int)
  | word (text : String)
  | bracket (text : String)
  | sign (s : Sign)
  deriving DecidableEq, Repr

namespace Token

/-- Why a text has no tokens. -/
inductive Fault where
  /-- A run of digits stands for no 64-bit word. -/
  | integerOverflow
  /-- No token begins where the rest of the text does. -/
  | unexpectedCharacter (rest : String)
  deriving DecidableEq, Repr

/-- The wording of a failure to find tokens. -/
def Fault.message : Fault → String
  | integerOverflow => "integer overflow"
  | unexpectedCharacter rest => "unexpected character in '" ++ rest ++ "'"

/-- Whether a character begins a word: an ASCII letter or an underscore. -/
def beginsWord (c : Char) : Bool := c.isAlpha || c == '_'

/-- Whether a character continues a word. -/
def continuesWord (c : Char) : Bool := c.isAlphanum || c == '_'

/-- The sign in front, the longest one where one begins another, and what follows it. -/
def sign? : List Char → Option (Sign × List Char)
  | '<' :: '=' :: rest => some (.lessEqual, rest)
  | '>' :: '=' :: rest => some (.greaterEqual, rest)
  | '=' :: '=' :: rest => some (.equalEqual, rest)
  | '!' :: '=' :: rest => some (.notEqual, rest)
  | '&' :: '&' :: rest => some (.andAnd, rest)
  | '|' :: '|' :: rest => some (.orOr, rest)
  | '<' :: rest => some (.less, rest)
  | '>' :: rest => some (.greater, rest)
  | '=' :: rest => some (.equal, rest)
  | '!' :: rest => some (.bang, rest)
  | '+' :: rest => some (.plus, rest)
  | '-' :: rest => some (.minus, rest)
  | '*' :: rest => some (.times, rest)
  | '(' :: rest => some (.openParen, rest)
  | ')' :: rest => some (.closeParen, rest)
  | '^' :: rest => some (.caret, rest)
  | _ => none

/-- The token that begins with a character which is not blank, and what follows it. -/
def first (c : Char) (cs : List Char) : Except Fault (Token × List Char) :=
  if Text.isDecimalDigit c then
    match Decimal.word? (c :: cs.takeWhile Text.isDecimalDigit) with
    | some n => .ok (.number n, cs.dropWhile Text.isDecimalDigit)
    | none => .error .integerOverflow
  else if beginsWord c then
    .ok (.word (String.ofList (c :: cs.takeWhile continuesWord)), cs.dropWhile continuesWord)
  else if c = '[' ∧ ']' ∈ cs then
    .ok (.bracket (String.ofList (cs.takeWhile (· != ']'))), (cs.dropWhile (· != ']')).drop 1)
  else
    match sign? (c :: cs) with
    | some (s, rest) => .ok (.sign s, rest)
    | none => .error (.unexpectedCharacter (String.ofList (c :: cs)))

theorem length_dropWhile_le {α : Type} (p : α → Bool) (xs : List α) :
    (xs.dropWhile p).length ≤ xs.length := by
  induction xs with
  | nil => simp
  | cons x xs ih =>
    simp only [List.dropWhile_cons]
    split
    · simp; omega
    · simp

theorem length_sign? {cs rest : List Char} {s : Sign} (h : sign? cs = some (s, rest)) :
    rest.length < cs.length := by
  unfold sign? at h
  split at h <;> simp only [Option.some.injEq, Prod.mk.injEq, reduceCtorEq] at h <;>
    (obtain ⟨_, rfl⟩ := h; simp; try omega)

/-- A token takes at least one character. -/
theorem length_first {c : Char} {cs rest : List Char} {t : Token}
    (h : first c cs = .ok (t, rest)) : rest.length < cs.length + 1 := by
  unfold first at h
  split at h
  · split at h
    · simp only [Except.ok.injEq, Prod.mk.injEq] at h
      obtain ⟨_, rfl⟩ := h
      have := length_dropWhile_le Text.isDecimalDigit cs
      omega
    · simp at h
  · split at h
    · simp only [Except.ok.injEq, Prod.mk.injEq] at h
      obtain ⟨_, rfl⟩ := h
      have := length_dropWhile_le continuesWord cs
      omega
    · split at h
      · simp only [Except.ok.injEq, Prod.mk.injEq] at h
        obtain ⟨_, rfl⟩ := h
        have := length_dropWhile_le (· != ']') cs
        simp only [List.length_drop]
        omega
      · split at h
        · rename_i hs
          simp only [Except.ok.injEq, Prod.mk.injEq] at h
          obtain ⟨_, rfl⟩ := h
          have := length_sign? hs
          simpa using this
        · simp at h

/-- The tokens of a text. -/
def scan (cs : List Char) : Except Fault (List Token) :=
  match _h : Text.trimLeft cs with
  | [] => .ok []
  | c :: rest =>
    match _hf : first c rest with
    | .error e => .error e
    | .ok (t, after) => (scan after).map (t :: ·)
termination_by cs.length
decreasing_by
  have h1 := length_first _hf
  have h2 : (c :: rest).length ≤ cs.length := by
    rw [← _h]; exact length_dropWhile_le _ _
  simp only [List.length_cons] at h2
  omega

end Token

end SpatialGrammar
