import SpatialGrammar.Text.CharSet

/-!
# Descriptions of sets of characters

Sets of characters with many runs are described by texts and put together only when they are asked
for.
-/

namespace SpatialGrammar

/-- The description of a set of characters. -/
inductive Repertoire where
  /-- The runs that a text lists. -/
  | runs (text : String)
  /-- Runs of one length, each given by its first code point. -/
  | spans (firsts : List Nat) (length : Nat)
  | union (a b : Repertoire)
  | diff (a b : Repertoire)
  deriving DecidableEq, Repr

namespace Repertoire

/-- The characters that are described. -/
def members : Repertoire → CharSet
  | runs text => CharSet.ofText text
  | spans firsts length => CharSet.ofAscending (firsts.map fun n => (n, n + length - 1))
  | union a b => a.members.union b.members
  | diff a b => a.members.diff b.members

/-- The characters of one of several sets. -/
def sum (parts : List Repertoire) : Repertoire := parts.foldr union (runs "")

/-- All characters. -/
def all : Repertoire := runs "0-D7FF E000-10FFFF"

end Repertoire

/-- A set of characters with the names that it goes by. -/
structure NamedRepertoire where
  names : List String
  repertoire : Repertoire

end SpatialGrammar
