import SpatialGrammar.Recognition.Summary
import SpatialGrammar.Report.Palette

/-!
# Reports

A report tells what a run has found: a line for each wave with a few samples, the matches of the root
with what is bound to their components, and how long it took.
-/

namespace SpatialGrammar.Report

open Recognition

/-- What is reported. -/
structure Findings where
  root : Name
  width : Int
  height : Int
  /-- The waves, each with its written duration. -/
  waves : List (WaveSummary Float × String)
  roots : List (Match Float)
  classification : String
  total : String

/-- The heading of a section, after an empty line. -/
def heading (p : Palette) (style : Style) (title : String) : List String := ["", p.paint style title]

/-- The line of a sample. -/
def sampleLine (p : Palette) (s : Sample Float) : String :=
  "    " ++ p.paint .yellow s.box.text ++ " " ++ p.paint .blue s.pattern ++ " "
    ++ p.paint .dim s.preview

/-- The number of samples that are shown for a wave. -/
def shownSamples : Nat := 5

/-- The lines of a wave. -/
def waveLines (p : Palette) (w : WaveSummary Float) (duration : String) : List String :=
  let matchCount := toString w.produced ++ " matches"
  let outcome := if 0 < w.produced then p.paint .green ("✓ " ++ matchCount)
    else p.paint .dim ("✗ " ++ matchCount)
  let patterns := "[" ++ String.intercalate ", " w.patterns ++ "] " ++ duration
  let title := "  " ++ p.paint .blue ("Wave " ++ toString w.index ++ ":") ++ " " ++ outcome ++ " "
    ++ p.paint .dim patterns
  let hidden := w.samples.length - shownSamples
  let rest := if hidden = 0 then []
    else ["    " ++ p.paint .dim ("... +" ++ toString hidden ++ " more")]
  title :: (w.samples.take shownSamples).map (sampleLine p) ++ rest

/-- The indentation at a depth of the tree. -/
def indentation (depth : Nat) : String := String.ofList (List.replicate (4 * depth) ' ')

/-- The line of a match that is bound to a component. -/
def memberLine (p : Palette) (depth : Nat) (component : Name) (m : Match Float) : String :=
  indentation depth ++ p.paint .blue (component ++ ":") ++ " " ++ p.paint .cyan m.pattern ++ " "
    ++ p.paint .dim (m.box.text ++ " \"" ++ excerpt 40 m ++ "\"")

/-- The line of the items of an array. -/
def itemsLine (p : Palette) (depth : Nat) (m : Match Float) : String :=
  indentation depth ++ p.paint .dim (toString m.items.length ++ " items:") ++ " "
    ++ p.paint .cyan (excerpt 60 m)

mutual

/-- The lines of what a match is made of. -/
def treeLines (p : Palette) (depth : Nat) : Match Float → List String
  | .cell _ _ _ _ _ => []
  | .array pattern box items => [itemsLine p depth (.array pattern box items)]
  | .composite _ _ bound _ => boundLines p depth bound

/-- The lines of what is bound to components. -/
def boundLines (p : Palette) (depth : Nat) : List (Name × List (Match Float)) → List String
  | [] => []
  | (component, members) :: rest => memberLines p depth component members ++ boundLines p depth rest

/-- The lines of the members of a component. -/
def memberLines (p : Palette) (depth : Nat) (component : Name) : List (Match Float) → List String
  | [] => []
  | m :: rest =>
    memberLine p depth component m :: treeLines p (depth + 1) m ++ memberLines p depth component rest

end

/-- The lines of a match of the root. -/
def rootLines (p : Palette) (m : Match Float) (index : Nat) : List String :=
  let title := "  " ++ p.paint .gray ("[" ++ toString index ++ "]") ++ " "
    ++ p.paint .bold (p.paint .green m.pattern) ++ " " ++ p.paint .dim "│" ++ " "
    ++ p.paint .yellow (m.box.text ++ "  p=" ++ Fixed.text 3 m.precision)
  title :: treeLines p 1 m

/-- The lines about a run without a match of the root. -/
def failureLines (p : Palette) : List String :=
  p.paint .dim "  No root matches" :: heading p .yellow "Possible reasons:"
    ++ ["  • A required component had no candidates",
      "  • Constraints rejected every combination",
      "  • Cell contents did not classify as the expected types"]
    ++ heading p .dim "  Tip: Set GRIDMATCH_LOG=gridmatch=debug to trace each matcher"

/-- The lines of a report. -/
def lines (p : Palette) (f : Findings) : List String :=
  let title := "⚙  Matching '" ++ f.root ++ "' on a " ++ toString f.width ++ "x"
    ++ toString f.height ++ " grid"
  let results := if f.roots.isEmpty then failureLines p
    else f.roots.zipIdx.flatMap fun (m, index) => rootLines p m index
  ["", p.paint .bold (p.paint .cyan title)]
    ++ heading p .gray "━━━ Waves ━━━"
    ++ f.waves.flatMap (fun (w, duration) => waveLines p w duration)
    ++ heading p .gray "━━━ Results ━━━"
    ++ results
    ++ heading p .gray "━━━ Timing ━━━"
    ++ ["  Total: " ++ p.paint .green f.total ++ "  │  Classification: "
      ++ p.paint .dim f.classification, ""]

/-- A report, every line of which is ended. -/
def text (p : Palette) (f : Findings) : String := String.join ((lines p f).map (· ++ "\n"))

end SpatialGrammar.Report
