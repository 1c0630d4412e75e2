/-!
# Blank characters and cutting of texts

The characters with the Unicode property White_Space, the removal of such characters from the
ends of a text, and the cutting of a text at separators.
-/

namespace SpatialGrammar.Text

/-- The characters with the Unicode property White_Space. -/
def isBlank (c : Char) : Bool :=
  let n := c.toNat
  (9 ≤ n && n ≤ 13) || n == 0x20 || n == 0x85 || n == 0xA0 || n == 0x1680
    || (0x2000 ≤ n && n ≤ 0x200A) || n == 0x2028 || n == 0x2029 || n == 0x202F || n == 0x205F
    || n == 0x3000

/-- Drops the blank characters in front. -/
def trimLeft (cs : List Char) : List Char := cs.dropWhile isBlank

/-- Drops the blank characters at the end. -/
def trimRight (cs : List Char) : List Char := (cs.reverse.dropWhile isBlank).reverse

/-- Drops the blank characters at both ends. -/
def trim (cs : List Char) : List Char := trimRight (trimLeft cs)

/-- The text without the blank characters at its ends. -/
def trimmed (s : String) : String := String.ofList (trim s.toList)

/-- Whether a text has no other characters than blank ones. -/
def isBlankText (s : String) : Bool := s.toList.all isBlank

/-- The pieces between separators: one more than there are separators. -/
def fields (separates : Char → Bool) : List Char → List (List Char)
  | [] => [[]]
  | c :: cs =>
    if separates c then [] :: fields separates cs
    else
      match fields separates cs with
      | [] => [[c]]
      | piece :: pieces => (c :: piece) :: pieces

/-- What stands before and after the first separator, if there is one. -/
def cut? (separates : Char → Bool) : List Char → Option (List Char × List Char)
  | [] => none
  | c :: cs =>
    if separates c then some ([], cs)
    else (cut? separates cs).map fun (before, after) => (c :: before, after)

/-- What stands before and after the last separator, if there is one. -/
def cutLast? (separates : Char → Bool) (cs : List Char) : Option (List Char × List Char) :=
  (cut? separates cs.reverse).map fun (after, before) => (before.reverse, after.reverse)

/-- The text in lower case, in as far as its letters are ASCII letters. -/
def lower (s : String) : String := String.ofList (s.toList.map Char.toLower)

/-- The lines of a text: each ends at a line feed, which a carriage return may precede; the last
line may lack its end. -/
def lines (cs : List Char) : List (List Char) :=
  let pieces := fields (· == '\n') cs
  let ended := (pieces.dropLast).map fun line =>
    if line.getLast? == some '\r' then line.dropLast else line
  match pieces.getLast? with
  | none | some [] => ended
  | some last => ended ++ [last]

theorem fields_ne_nil (p : Char → Bool) (cs : List Char) : fields p cs ≠ [] := by
  cases cs with
  | nil => simp [fields]
  | cons c cs =>
    simp only [fields]
    split
    · simp
    · split <;> simp

/-- Every character of core's blank class is blank. -/
theorem isBlank_of_isWhitespace {c : Char} (h : c.isWhitespace = true) : isBlank c = true := by
  simp only [Char.isWhitespace, Bool.or_eq_true, decide_eq_true_eq] at h
  rcases h with ((h | h) | h) | h <;> subst h <;> decide

end SpatialGrammar.Text
