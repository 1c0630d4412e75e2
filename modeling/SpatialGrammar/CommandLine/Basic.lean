import SpatialGrammar.CommandLine.Arguments
import SpatialGrammar.Grammar.Document
import SpatialGrammar.Recognition.Session
import SpatialGrammar.Report.Basic

/-!
# The command line

Reads a grammar and a sheet, recognises the grammar on the sheet and reports what has been found. All
that is asked of the system around it, files, the input and clocks, is a parameter, so that the same
definition serves the program and theorems about it.
-/

namespace SpatialGrammar.CommandLine

open Recognition

/-- The system around the command line. -/
structure Surroundings (m : Type → Type) where
  /-- The text of a file, or why it cannot be read. -/
  fileText : String → m (Except String String)
  /-- The text of the input, or why it cannot be read. -/
  inputText : m (Except String String)
  /-- The value of a calculation, and how many nanoseconds that took. -/
  measure : {β : Type} → (Unit → β) → m (β × Nat)
  /-- The written form of a number of nanoseconds. -/
  showDuration : Nat → String

/-- How the command line ends. -/
structure Outcome where
  code : Nat
  output : String := ""
  errors : String := ""
  deriving DecidableEq, Repr

/-- The program and its version. -/
def versionText : String := "gridmatch 0.1.0"

/-- How to use the command line. -/
def helpText : String := versionText ++ "

Recognize grammar-described structures in a 2D text grid.

Usage:
  gridmatch --grammar <file.yaml> [OPTIONS] [--] [grid-file]

The grid is read from grid-file, or from stdin when omitted (or '-'). Without
--delimiter every character is one cell and whitespace is an empty cell.

Options:
  -g, --grammar <file>       YAML grammar to match with (required).
  -d, --delimiter <char>     Split lines into cells on <char> ('tab' or '\\t'
                             for tab separated input).
  --color                    Force ANSI color output.
  --no-color                 Disable ANSI color output.
  -h, --help                 Show this help message.
  -V, --version              Print version information.

Environment:
  GRIDMATCH_LOG              Tracing filter, e.g. 'gridmatch=debug'. Default: warn.

Exit codes:
  0  Success.
  1  Grammar, grid or IO error.
  2  Invalid arguments.
"

/-- The wording of what is wrong with the arguments. -/
def UsageError.message : UsageError → String
  | .missingValue option => "error: " ++ option.name ++ " expects a value"
  | .unknownOption argument => "error: unknown option '" ++ argument ++ "'"
  | .invalidDelimiter value =>
    "error: invalid --delimiter '" ++ value ++ "' (expected a single character)"
  | .repeatedSheet => "error: grid file provided multiple times"
  | .excessArguments => "error: expected at most one grid file"
  | .missingGrammar => "error: --grammar is required\n\n" ++ helpText

/-- Why a grammar could not be recognised. -/
inductive Failure where
  /-- A file or the input cannot be read, for a reason. -/
  | unreadable (reason : String)
  | grammar (error : GrammarError)
  | fault (fault : Fault)

/-- The wording of a failure. -/
def Failure.message : Failure → String
  | unreadable reason => "IO error: " ++ reason
  | grammar e => e.message
  | fault (.constraint e) => e.message
  | fault .overflow => "arithmetic overflow"

/-- How the command line ends after a failure. -/
def Failure.outcome (f : Failure) : Outcome :=
  { code := if let fault .overflow := f then 101 else 1
    errors := "error: " ++ f.message ++ "\n" }

variable {m : Type → Type} [Monad m]

/-- The sheet of a text. -/
def readSheet (delimiter : Option Char) (text : String) : Sheet :=
  match delimiter with
  | some d => Sheet.ofDelimited text d
  | none => Sheet.ofChars text

/-- A monad in which a failure ends the calculation. -/
abbrev Attempt (m : Type → Type) := ExceptT Failure m

/-- A reading that may fail. -/
def reading (r : m (Except String String)) : Attempt m String :=
  ExceptT.mk do return (← r).mapError .unreadable

/-- The value of a calculation that may fail, and how long that took. -/
def timed (env : Surroundings m) {β : Type} (f : Unit → Except Failure β) : Attempt m (β × Nat) :=
  ExceptT.mk do
    let (result, duration) ← env.measure f
    return result.map fun value => (value, duration)

/-- Recognises waves one after the other, with the time that each takes. -/
def timedWaves (env : Surroundings m) (s : Scene Float) :
    List (List Name) → Attempt m (List (WaveReport Float × Nat) × Registry Float)
  | [] => return ([], s.registry)
  | names :: rest => do
    let ((w, next), duration) ← timed env fun _ => (advance s names).mapError .fault
    let (ws, registry) ← timedWaves env next rest
    return ((w, duration) :: ws, registry)

/-- Recognises a grammar on a sheet. -/
def findings (env : Surroundings m) (g : Grammar Float) (sheet : Sheet) : Attempt m Report.Findings := do
  let classifier ← ExceptT.mk (return (classifierOf g).mapError .grammar)
  let (cells, classification) ← timed env fun _ => .ok (classifyCells classifier sheet)
  let (waves, registry) ← timedWaves env (Scene.initial g g.options cells) g.waves
  let durations := waves.map (·.2)
  return { root := g.root
           width := sheet.width
           height := sheet.height
           waves := (summaries (waves.map (·.1))).zip (durations.map env.showDuration)
           roots := registry.named g.root
           classification := env.showDuration classification
           total := env.showDuration (durations.foldl (· + ·) classification) }

/-- The report on what is to be recognised. -/
def recognise (env : Surroundings m) (config : Config) : Attempt m String := do
  let document ← reading (env.fileText config.grammar)
  let g ← ExceptT.mk (return (Grammar.ofText document).mapError .grammar)
  let text ← reading (match config.sheet with
    | some file => env.fileText file
    | none => env.inputText)
  let found ← findings env g (readSheet config.delimiter text)
  return Report.text ⟨config.colour⟩ found

/-- What the command line does. -/
def execute (env : Surroundings m) (terminal : Bool) (arguments : List String) : m Outcome := do
  match readArguments terminal arguments with
  | .error e => return { code := 2, errors := e.message ++ "\n" }
  | .ok .help => return { code := 0, output := helpText ++ "\n" }
  | .ok .version => return { code := 0, output := versionText ++ "\n" }
  | .ok (.recognise config) =>
    match ← (recognise env config).run with
    | .ok output => return { code := 0, output }
    | .error failure => return failure.outcome

end SpatialGrammar.CommandLine
