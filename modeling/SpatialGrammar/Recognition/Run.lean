import SpatialGrammar.Recognition.Areas
import SpatialGrammar.Recognition.Cells
import SpatialGrammar.Recognition.Structures

/-!
# Runs

A run recognises the patterns of a grammar on a sheet, wave by wave. The patterns of a wave see the
matches of earlier waves only; when all of them are recognised, their matches are registered under
the pattern and under all patterns that it extends.
-/

namespace SpatialGrammar.Recognition

variable {α : Type} [Score α]

/-- The matches of a pattern in the order in which they are found. -/
def patternMatches (s : Scene α) (p : Pattern α) (region : Option Region) :
    Except Fault (List (Match α)) :=
  match p.kind with
  | .cell contentType => cellMatches s p contentType region
  | .general => structureMatches s p region
  | .array shape => arrayMatches s p shape false region
  | .arrayInContext shape => arrayMatches s p shape true region
  | .area => areaMatches s p region

/-- Whether a box is not listed after another one: by row, column, height and width. -/
def notListedAfter (b c : Box) : Bool :=
  let place (b : Box) : List Int := [b.top, b.left, b.height, b.width]
  !decide (place c < place b)

/-- The first matches in the order of their boxes, as many as are wanted. -/
def listed (limit : Option Nat) (ms : List (Match α)) : List (Match α) :=
  let sorted := ms.mergeSort fun m n => notListedAfter m.box n.box
  match limit with
  | none => sorted
  | some most => sorted.take most

/-- As many matches as a document may have. -/
def enforceCount (count : Interval) (ms : List (Match α)) : List (Match α) :=
  match count.stop with
  | none => ms
  | some most => ms.take most.toNat

/-- The matches of a pattern that a run registers. -/
def recognisePattern (s : Scene α) (p : Pattern α) : Except Fault (List (Match α)) := do
  return enforceCount p.count (listed s.options.matchLimit (← patternMatches s p none))

/-- The matches of a pattern in a run. -/
structure PatternReport (α : Type) where
  pattern : Name
  found : List (Match α)

/-- What a wave of patterns has produced. -/
abbrev WaveReport (α : Type) := List (PatternReport α)

/-- The number of matches of a wave. -/
def WaveReport.produced (w : WaveReport α) : Nat := (w.flatMap (·.found)).length

/-- Recognises the patterns of a wave. -/
def recogniseWave (s : Scene α) (names : List Name) : Except Fault (WaveReport α) :=
  (names.filterMap s.grammar.pattern?).mapM fun p => do
    return { pattern := p.name, found := ← recognisePattern s p }

/-- Registers the matches of a pattern, under the patterns that it extends, too. -/
def registerPattern (g : Grammar α) (r : Registry α) (report : PatternReport α) : Registry α :=
  report.found.foldl (fun r m => r.register m (g.ancestorNames report.pattern)) r

/-- Registers the matches of a wave. -/
def registerWave (g : Grammar α) (r : Registry α) (w : WaveReport α) : Registry α :=
  w.foldl (registerPattern g) r

/-- Recognises a wave; with the scene that later waves see. -/
def advance (s : Scene α) (names : List Name) : Except Fault (WaveReport α × Scene α) := do
  let w ← recogniseWave s names
  return (w, { s with registry := registerWave s.grammar s.registry w })

/-- Recognises waves one after the other; with the registry that comes out. -/
def recogniseWaves (s : Scene α) : List (List Name) → Except Fault (List (WaveReport α) × Registry α)
  | [] => .ok ([], s.registry)
  | names :: rest => do
    let (w, next) ← advance s names
    let (ws, registry) ← recogniseWaves next rest
    return (w :: ws, registry)

/-- What a run has found. -/
structure Run (α : Type) where
  grammar : Grammar α
  waves : List (WaveReport α)
  registry : Registry α

namespace Run

/-- The matches of the root. -/
def roots (r : Run α) : List (Match α) := r.registry.named r.grammar.root

/-- The number of matches of all waves. -/
def produced (r : Run α) : Nat := WaveReport.produced r.waves.flatten

end Run

/-- What recognition starts from. -/
def Scene.initial (g : Grammar α) (options : Options α) (cells : List (ClassifiedCell α)) : Scene α :=
  { grammar := g, options, cells, registry := Registry.empty }

/-- Recognises the patterns of a grammar among classified cells. -/
def run (g : Grammar α) (options : Options α) (cells : List (ClassifiedCell α)) :
    Except Fault (Run α) := do
  let (waves, registry) ← recogniseWaves (Scene.initial g options cells) g.waves
  return { grammar := g, waves, registry }

end SpatialGrammar.Recognition
