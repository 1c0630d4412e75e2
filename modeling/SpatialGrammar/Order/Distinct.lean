/-!
# Sorted lists without repetition

Finite sets kept as lists that ascend by a given order. Main statement: `mem_ofList`, sorting and
removing repetitions keeps the members.
-/

namespace SpatialGrammar.Distinct

variable {α : Type} [DecidableEq α]

/-- Puts an element in its place, unless it is there already. -/
def insert (precedes : α → α → Bool) (x : α) : List α → List α
  | [] => [x]
  | y :: ys =>
    if x = y then y :: ys
    else if precedes x y then x :: y :: ys
    else y :: insert precedes x ys

/-- The elements of a list in ascending order, each once. -/
def ofList (precedes : α → α → Bool) (xs : List α) : List α := xs.foldr (insert precedes) []

theorem mem_insert {precedes : α → α → Bool} {x y : α} {ys : List α} :
    y ∈ insert precedes x ys ↔ y = x ∨ y ∈ ys := by
  induction ys with
  | nil => simp [insert]
  | cons z zs ih =>
    simp only [insert]
    split
    · rename_i h; subst h; simp
    · split
      · simp
      · simp only [List.mem_cons, ih]
        exact ⟨fun h => by rcases h with h | h | h <;> simp [h],
          fun h => by rcases h with h | h | h <;> simp [h]⟩

theorem mem_ofList {precedes : α → α → Bool} {y : α} {xs : List α} :
    y ∈ ofList precedes xs ↔ y ∈ xs := by
  induction xs with
  | nil => simp [ofList]
  | cons x xs ih =>
    simp only [ofList, List.foldr_cons, List.mem_cons] at ih ⊢
    rw [mem_insert, ih]

end SpatialGrammar.Distinct
