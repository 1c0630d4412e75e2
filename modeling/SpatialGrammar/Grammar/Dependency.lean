import SpatialGrammar.Order.Distinct
import SpatialGrammar.Order.NameMap

/-!
# Dependencies between names

Relations between names are given by the list of names that each one leads to. `closure` collects
what can be reached along such a relation, and `layers` sorts names into layers each of which
depends on earlier ones only. Main statement: `length_blocked_lt`, every layer takes names away, so
that the sorting ends.
-/

namespace SpatialGrammar.Dependency

/-- The names of a list in ascending order, each once. -/
def sorted (names : List Name) : List Name := Distinct.ofList (fun a b => decide (a < b)) names

/-- Adds to some names what they lead to, as often as a budget allows, stopping when nothing is
added. The number of names that there are is budget enough. -/
def closure (next : Name → List Name) : Nat → List Name → List Name
  | 0, found => found
  | budget + 1, found =>
    let more := sorted (found ++ found.flatMap next)
    if more = found then found else closure next budget more

/-- Whether everything that a name leads to is done. -/
def isReady (next : Name → List Name) (done : List Name) (name : Name) : Bool :=
  (next name).all done.contains

/-- The pending names that lead only to what is done. -/
def ready (next : Name → List Name) (done pending : List Name) : List Name :=
  pending.filter (isReady next done)

/-- The pending names that lead to something that is not done. -/
def blocked (next : Name → List Name) (done pending : List Name) : List Name :=
  pending.filter fun name => !isReady next done name

theorem length_blocked_lt {next : Name → List Name} {done pending : List Name}
    (h : ready next done pending ≠ []) : (blocked next done pending).length < pending.length := by
  obtain ⟨name, hname⟩ := List.exists_mem_of_ne_nil _ h
  rw [ready, List.mem_filter] at hname
  exact List.length_filter_lt_length_iff_exists.2 ⟨name, hname.1, by simp [hname.2]⟩

/-- Sorts pending names into layers: each layer holds the names that lead only to what is done
before it. The error is what is left when no name is ready, which happens on a cycle. -/
def layers (next : Name → List Name) (done pending : List Name) :
    Except (List Name) (List (List Name)) :=
  if pending.isEmpty then .ok []
  else
    let layer := ready next done pending
    if h : layer = [] then .error pending
    else
      have := length_blocked_lt h
      match layers next (done ++ layer) (blocked next done pending) with
      | .ok rest => .ok (layer :: rest)
      | .error stuck => .error stuck
termination_by pending.length

end SpatialGrammar.Dependency
