import SpatialGrammar.Recognition.Arbitration
import SpatialGrammar.Recognition.Assembly

/-!
# Matches of structures

The components of a structure are bound one after the other in the order in which they are declared.
Every draft, a structure with some components bound, is continued with every candidate that the
constraints may still allow; a repeated component takes all candidates that fit beside each other.
Drafts with a low score are dropped on the way.
-/

namespace SpatialGrammar.Recognition

variable {α : Type}

/-- A structure some components of which are bound, and the score that this has earned. -/
structure Draft (α : Type) extends Assembly α where
  score : α

namespace Draft

/-- The structure nothing of which is bound. -/
def empty [Score α] : Draft α := { Assembly.empty with score := Score.zero }

/-- The draft with some members bound to a component. -/
def bind [Score α] (d : Draft α) (c : Component α) (members : List (Candidate α)) : Draft α :=
  let precision := Score.mean (members.map (·.found.precision))
  { d.toAssembly.bind c.name members with score := Score.add d.score (Score.mul c.weight precision) }

end Draft

/-- Takes candidates that are clear of each other, in order, as long as there is room for more. -/
def takeClear (room : Option Nat) (occupied : List Point) :
    List (Candidate α) → List (Candidate α)
  | [] => []
  | k :: rest =>
    if room = some 0 then []
    else if k.isClearOf occupied then
      k :: takeClear (room.map (· - 1)) (occupied ++ k.points) rest
    else takeClear room occupied rest

/-- The members of a repeated component: candidates that are clear of each other, provided that there
are enough of them. -/
def gather (c : Component α) (viable : List (Candidate α)) : Option (List (Candidate α)) :=
  let taken := takeClear c.maxCount [] viable
  if !taken.isEmpty && c.admitsCount taken.length then some taken else none

/-- The drafts that continue a draft with a component. -/
def continueDraft [Score α] (constraints : List Constraint) (c : Component α)
    (candidates : List (Candidate α)) (d : Draft α) : Except Fault (List (Draft α)) := do
  let viable ← candidates.filterM (d.allows constraints c.name)
  let next :=
    if c.isRepeated then ((gather c viable).map fun members => d.bind c members).toList
    else viable.map fun k => d.bind c [k]
  return if next.isEmpty && c.isOptional then [d] else next

/-- The drafts whose score comes near enough to the greatest one. -/
def keepBest [Score α] (cutoff : α) (drafts : List (Draft α)) : List (Draft α) :=
  match drafts with
  | [] => []
  | first :: rest =>
    let top := rest.foldl (fun top d => Score.larger top d.score) first.score
    drafts.filter fun d => Score.le (Score.mul top cutoff) d.score

/-- Binds components one after the other. -/
def bindAll [Score α] (s : Scene α) (constraints : List Constraint) (region : Option Region) :
    List (Component α) → List (Draft α) → Except Fault (List (Draft α))
  | [], drafts => .ok drafts
  | c :: rest, drafts => do
    let candidates := (s.registry.namedIn c.pattern region).map Candidate.of
    let next ← drafts.mapM (continueDraft constraints c candidates)
    match next.flatten with
    | [] => return []
    | next => bindAll s constraints region rest (keepBest s.options.cutoffRatio next)

/-- The candidates of a structure pattern before arbitration. -/
def structureCandidates [Score α] (s : Scene α) (p : Pattern α) (region : Option Region) :
    Except Fault (List (Match α)) := do
  let constraints := compositeConstraints s.grammar p
  let drafts ← bindAll s constraints region p.components [Draft.empty]
  let finished ← drafts.mapM fun d => d.finish? p constraints (mayLieIn region)
  return finished.filterMap id

/-- The matches of a structure pattern. -/
def structureMatches [Score α] (s : Scene α) (p : Pattern α) (region : Option Region) :
    Except Fault (List (Match α)) := do
  return arbitrate s.options.elementLimit (← structureCandidates s p region)

end SpatialGrammar.Recognition
