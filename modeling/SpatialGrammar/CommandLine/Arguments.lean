/-!
# Arguments

How the arguments of the command line are read: options with a value, which may be joined to the
option by an equals sign, switches, and the file of the sheet. The first argument that is wrong, or
that asks for help, decides.
-/

namespace SpatialGrammar.CommandLine

/-- What is to be recognised. -/
structure Config where
  /-- The file of the grammar. -/
  grammar : String
  /-- The file of the sheet; without one the sheet is read from the input. -/
  sheet : Option String
  /-- What separates cells; without it every character is a cell. -/
  delimiter : Option Char
  colour : Bool
  deriving DecidableEq, Repr

/-- What the arguments ask for. -/
inductive Request where
  | help
  | version
  | recognise (config : Config)
  deriving DecidableEq, Repr

/-- An option that takes a value. -/
inductive ValueOption where
  | grammar
  | delimiter
  deriving DecidableEq, Repr

/-- The long name of an option. -/
def ValueOption.name : ValueOption → String
  | grammar => "--grammar"
  | delimiter => "--delimiter"

/-- What can be wrong with arguments. -/
inductive UsageError where
  | missingValue (option : ValueOption)
  | unknownOption (argument : String)
  | invalidDelimiter (value : String)
  | repeatedSheet
  | excessArguments
  | missingGrammar
  deriving DecidableEq, Repr

/-- The role of an argument. -/
inductive Argument where
  | help
  | version
  | colour (enabled : Bool)
  /-- An option the value of which is the next argument. -/
  | option (option : ValueOption)
  /-- An option with its value. -/
  | assignment (option : ValueOption) (value : String)
  | endOfOptions
  | standardInput
  | unknownOption
  | file
  deriving DecidableEq, Repr

theorem length_sub_lt {lead text : List Char} (h : lead ≠ [] ∧ lead.isPrefixOf text) :
    text.length - lead.length < text.length := by
  have h₁ : 0 < lead.length := List.length_pos_iff.2 h.1
  have h₂ : lead.length ≤ text.length := (List.isPrefixOf_iff_prefix.1 h.2).length_le
  omega

/-- A text without a beginning, which is taken away as often as it is there. -/
def dropLead (lead text : List Char) : List Char :=
  if h : lead ≠ [] ∧ lead.isPrefixOf text then
    have := length_sub_lt h
    dropLead lead (text.drop lead.length)
  else text
termination_by text.length

/-- The value that is joined to an option by an equals sign. -/
def joinedValue? (option : ValueOption) (argument : String) : Option String :=
  let lead := option.name.toList ++ ['=']
  if lead.isPrefixOf argument.toList then some (String.ofList (dropLead lead argument.toList))
  else none

/-- The role of an argument. -/
def Argument.of (argument : String) : Argument :=
  match argument with
  | "-h" | "--help" => .help
  | "-V" | "--version" => .version
  | "--color" => .colour true
  | "--no-color" => .colour false
  | "--grammar" | "-g" => .option .grammar
  | "--delimiter" | "-d" => .option .delimiter
  | "--" => .endOfOptions
  | "-" => .standardInput
  | _ =>
    match joinedValue? .grammar argument, joinedValue? .delimiter argument with
    | some value, _ => .assignment .grammar value
    | none, some value => .assignment .delimiter value
    | none, none => if argument.toList.head? = some '-' then .unknownOption else .file

/-- Reads a delimiter: a character, or a name of the tabulator. -/
def readDelimiter (value : String) : Except UsageError Char :=
  match value with
  | "\\t" | "tab" => .ok '\t'
  | _ =>
    match value.toList with
    | [c] => .ok c
    | _ => .error (.invalidDelimiter value)

/-- What the arguments have said so far. -/
structure Settings where
  grammar : Option String
  sheet : Option String
  delimiter : Option Char
  colour : Bool

namespace Settings

/-- Sets the value of an option; a later value takes the place of an earlier one. -/
def assign (s : Settings) (option : ValueOption) (value : String) : Except UsageError Settings :=
  match option with
  | .grammar => .ok { s with grammar := some value }
  | .delimiter => do return { s with delimiter := some (← readDelimiter value) }

/-- Sets the file of the sheet, of which there is only one. -/
def setSheet (s : Settings) (file : String) : Except UsageError Settings :=
  if s.sheet.isSome then .error .repeatedSheet else .ok { s with sheet := some file }

/-- The request of all arguments. -/
def request (s : Settings) : Except UsageError Request :=
  match s.grammar with
  | none => .error .missingGrammar
  | some grammar =>
    .ok (.recognise { grammar, sheet := s.sheet, delimiter := s.delimiter, colour := s.colour })

/-- Reads what follows the end of the options. -/
def readFiles (s : Settings) : List String → Except UsageError Request
  | [] => s.request
  | file :: rest => do
    let s ← s.setSheet file
    if rest.isEmpty then s.request else throw .excessArguments

/-- Reads arguments one by one. -/
def read (s : Settings) : List String → Except UsageError Request
  | [] => s.request
  | argument :: rest =>
    match Argument.of argument with
    | .help => .ok .help
    | .version => .ok .version
    | .colour enabled => read { s with colour := enabled } rest
    | .option option =>
      match rest with
      | [] => .error (.missingValue option)
      | value :: rest => do read (← s.assign option value) rest
    | .assignment option value => do read (← s.assign option value) rest
    | .endOfOptions => s.readFiles rest
    | .standardInput => read s rest
    | .unknownOption => .error (.unknownOption argument)
    | .file => do read (← s.setSheet argument) rest

end Settings

/-- Reads the arguments; colours are used by themselves if the output goes to a terminal. -/
def readArguments (terminal : Bool) (arguments : List String) : Except UsageError Request :=
  Settings.read { grammar := none, sheet := none, delimiter := none, colour := terminal } arguments

end SpatialGrammar.CommandLine
