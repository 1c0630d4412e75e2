import SpatialGrammar.Conflict.Arrangement
import SpatialGrammar.Conflict.OwnerTable

/-!
# Conflict graphs

Finitely many elements, some of which clash. A graph is built link by link, from a relation of
which all pairs are asked or from the owners of each component. `arrangements` lists the maximal
conflict-free selections: what clashes with nothing joins every selection, and the rest falls apart
into connected spots whose selections combine freely. A spot forks on its first index: selections
that hold it continue with what does not clash with it, selections without it have to hold one of
its rivals. An optional limit bounds the number of members.
-/

namespace SpatialGrammar

/-- Elements `0`, …, `n - 1` with a symmetric relation between them. -/
structure ConflictGraph (n : Nat) where
  neighbours : Vector (IndexSet n) n

namespace ConflictGraph

variable {n : Nat}

/-- What an element clashes with. -/
def clashes (g : ConflictGraph n) : Clashes n := fun i => (g.neighbours[i]?).getD IndexSet.empty

/-- The graph in which each element clashes with a given set. -/
def ofClashes (clashes : Clashes n) : ConflictGraph n := ⟨Vector.ofFn fun i => clashes i⟩

/-- The graph in which no elements clash. -/
def unlinked : ConflictGraph n := ⟨Vector.replicate n IndexSet.empty⟩

/-- Adds the second element to what the first one clashes with. -/
def link (g : ConflictGraph n) (i j : Nat) : ConflictGraph n :=
  ⟨g.neighbours.setIfInBounds i ((g.clashes i).insert j)⟩

/-- The graph with the given links. -/
def ofLinks (links : List (Nat × Nat)) : ConflictGraph n :=
  links.foldl (fun g l => g.link l.1 l.2) unlinked

/-- The pairs of two elements, the lesser one first. -/
def pairs (n : Nat) : List (Nat × Nat) :=
  (List.range n).flatMap fun i => (List.range' (i + 1) (n - (i + 1))).map fun j => (i, j)

/-- The graph of a relation: two distinct elements clash if it holds in either order. -/
def ofRelation (related : Nat → Nat → Bool) : ConflictGraph n :=
  ofLinks <| (pairs n).flatMap fun (i, j) =>
    if related i j || related j i then [(i, j), (j, i)] else []

/-- The links from each element of a group to the other ones. -/
def linksWithin (group : List Nat) : List (Nat × Nat) :=
  group.flatMap fun i => (group.filter fun j => i != j).map fun j => (i, j)

/-- The graph of groups: two distinct elements clash if they come in the same group. -/
def ofGroups (groups : List (List Nat)) : ConflictGraph n := ofLinks (groups.flatMap linksWithin)

/-- The graph of shared components: two distinct elements clash if they have one in common. -/
def ofComponents {κ : Type} [DecidableEq κ] (components : List (List κ)) : ConflictGraph n :=
  ofGroups (OwnerTable.ofComponents components).groups

/-- Adds to a set what its members clash with inside another set. -/
def spread (clashes : Clashes n) (within spot : IndexSet n) : IndexSet n :=
  spot.toList.foldl (fun s i => s.union ((clashes i).inter within)) spot

/-- Spreads a set as often as a budget allows, stopping when nothing is added. -/
def closure (clashes : Clashes n) (within : IndexSet n) : Nat → IndexSet n → IndexSet n
  | 0, spot => spot
  | budget + 1, spot =>
    let next := spread clashes within spot
    if next = spot then spot else closure clashes within budget next

/-- The part of a set that is connected to one of its members. -/
def connectedSpot (clashes : Clashes n) (within : IndexSet n) (seed : Nat) : IndexSet n :=
  closure clashes within n (IndexSet.empty.insert seed)

/-- Splits a set into its connected spots, the one with the least member first. -/
def spots (clashes : Clashes n) : Nat → IndexSet n → List (IndexSet n)
  | 0, _ => []
  | budget + 1, pending =>
    match pending.first? with
    | none => []
    | some seed =>
      let spot := connectedSpot clashes pending seed
      spot :: spots clashes budget (pending.diff spot)

/-- The members of a set that clash with no other member. -/
def free (clashes : Clashes n) (s : IndexSet n) : IndexSet n :=
  IndexSet.ofList (s.toList.filter fun i => (clashes i).isDisjoint s)

/-- Drops arrangements that are contained in others. Without a limit there are none, since each one
is maximal then. -/
def settle (limit : Option Nat) (as : List (Arrangement n)) : List (Arrangement n) :=
  match limit with
  | none => as
  | some _ => Arrangement.retainMaximal as

/-- The arrangements of a spot, given a way to find the arrangements of smaller sets. -/
def spotArrangements (clashes : Clashes n) (limit : Option Nat)
    (smaller : IndexSet n → List (Arrangement n)) (spot : IndexSet n) : List (Arrangement n) :=
  match spot.first? with
  | none => [Arrangement.empty]
  | some seed =>
    let rivals := (clashes seed).inter spot
    let anchor := Arrangement.empty.grow clashes limit (IndexSet.empty.insert seed)
    let holding := (smaller ((spot.diff rivals).erase seed)).map fun a =>
      anchor.grow clashes limit a.members
    let lacking := (smaller (spot.erase seed)).filter fun a =>
      !a.members.isDisjoint rivals || Arrangement.reaches limit a.size
    settle limit (holding ++ lacking)

/-- The maximal arrangements of a set. The budget bounds the depth of the forks; the size of the
set is enough. -/
def resolve (clashes : Clashes n) (limit : Option Nat) : Nat → IndexSet n → List (Arrangement n)
  | 0, _ => [Arrangement.empty]
  | budget + 1, s =>
    let unbound := free clashes s
    (spots clashes n (s.diff unbound)).foldl
      (fun ready spot =>
        let parts := spotArrangements clashes limit (resolve clashes limit budget) spot
        settle limit
          (ready.flatMap fun a => parts.map fun b => a.grow clashes limit b.members))
      [Arrangement.empty.grow clashes limit unbound]

/-- The maximal conflict-free selections of all elements, with at most `limit` members if a limit
is given, in the order of their members. A graph without elements has none. -/
def arrangements (g : ConflictGraph n) (limit : Option Nat) : List (Arrangement n) :=
  if n = 0 then []
  else
    let found := resolve g.clashes limit (n + 1) IndexSet.full
    let keyed := found.map fun a => (a.members.toList, a)
    (keyed.mergeSort fun p q => Arrangement.lexicographic p.1 q.1).map (·.2)

/-- The first of the selections with the greatest key, as a list of elements. -/
def best {κ : Type} (g : ConflictGraph n) (limit : Option Nat) (greater : κ → κ → Bool)
    (key : List Nat → κ) : List Nat :=
  let candidates := (g.arrangements limit).map fun a => (key a.members.toList, a.members.toList)
  match candidates with
  | [] => []
  | first :: rest => (rest.foldl (fun best c => if greater c.1 best.1 then c else best) first).2

end ConflictGraph

end SpatialGrammar
