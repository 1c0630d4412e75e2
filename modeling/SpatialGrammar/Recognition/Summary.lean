import SpatialGrammar.Recognition.Run

/-!
# Summaries of runs

A short account of each wave: its patterns, the number of their matches, and the first few of them.
-/

namespace SpatialGrammar.Recognition

variable {α : Type}

/-- A short account of a match. -/
structure Sample (α : Type) where
  pattern : Name
  box : Box
  precision : α
  /-- The beginning of the text. -/
  preview : String

/-- The first characters of the text of a match. -/
def excerpt (length : Nat) (m : Match α) : String := String.ofList (m.text.toList.take length)

/-- The account of a match. -/
def Sample.of [Score α] (m : Match α) : Sample α := ⟨m.pattern, m.box, m.precision, excerpt 80 m⟩

/-- A short account of a wave. -/
structure WaveSummary (α : Type) where
  index : Nat
  produced : Nat
  patterns : List Name
  samples : List (Sample α)

/-- The account of a wave. -/
def WaveReport.summary [Score α] (w : WaveReport α) (index : Nat) : WaveSummary α where
  index
  produced := w.produced
  patterns := w.map (·.pattern)
  samples := ((w.flatMap (·.found)).take 8).map Sample.of

/-- The accounts of the waves of a run. -/
def summaries [Score α] (waves : List (WaveReport α)) : List (WaveSummary α) :=
  waves.zipIdx.map fun (w, index) => w.summary index

end SpatialGrammar.Recognition
