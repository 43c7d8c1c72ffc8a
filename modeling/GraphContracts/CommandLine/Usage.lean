import GraphContracts.Text.Quoted

namespace GraphContracts.CommandLine

inductive Setting where
  | version
  | verbose
  | help
  | json
  | pattern
  | classes
  | category
  deriving DecidableEq, Repr

structure Switch where
  setting : Setting
  short : Option Char
  long : String
  takesValue : Bool
  about : String
  deriving DecidableEq, Repr

namespace Switch

def help : Switch :=
  ⟨.help, none, "--help", false, "Show this message and exit."⟩

def valueName : String := "TEXT"

def display (s : Switch) : String :=
  let short := (s.short.map fun c => String.ofList ['-', c, ',', ' ']).getD ""
  short ++ s.long ++ if s.takesValue then " " ++ valueName else ""

end Switch

inductive Command where
  | report
  | symbols
  | catalog
  deriving DecidableEq, Repr

namespace Command

def all : List Command :=
  [.catalog, .report, .symbols]

def name : Command → String
  | .report => "report"
  | .symbols => "symbols"
  | .catalog => "catalog"

def ofName? (s : String) : Option Command :=
  all.find? fun c => c.name = s

theorem ofName?_name (c : Command) : ofName? c.name = some c := by
  cases c <;> decide

def operand : Command → String
  | .report => "CALLS_JSON"
  | .symbols => "SCIP_JSON"
  | .catalog => "CATALOG_FILE"

def about : Command → List String
  | .report =>
    ["Run all data integrity checks against CALLS_JSON.",
      "Exits with status 1 when any check finds a violation."]
  | .symbols => ["List symbols in SCIP_JSON with their occurrence counts."]
  | .catalog => ["List the contract tests described in CATALOG_FILE."]

def switches : Command → List Switch
  | .report => [⟨.json, none, "--json", false, "Output the report as JSON"⟩, .help]
  | .symbols =>
    [⟨.pattern, some 'p', "--pattern", true, "Glob or class name to match symbols"⟩,
      ⟨.classes, none, "--classes", false, "Only class symbols"⟩,
      ⟨.json, none, "--json", false, "Output as JSON"⟩, .help]
  | .catalog =>
    [⟨.category, some 'c', "--category", true, "Only entries in this category"⟩, .help]

end Command

def programName : String := "callcontract"

def programVersion : String := "0.1.0"

def programAbout : String :=
  "callcontract - validate call/value graphs and SCIP indexes."

def programSwitches : List Switch :=
  [⟨.version, none, "--version", false, "Show the version and exit."⟩,
    ⟨.verbose, some 'v', "--verbose", false, "Enable debug logging"⟩, .help]

/-- The words that lead to a command, or to the program itself. -/
def pathTo : Option Command → String
  | none => programName
  | some c => s!"{programName} {c.name}"

def switchesOf : Option Command → List Switch
  | none => programSwitches
  | some c => c.switches

def usageLine (c : Option Command) : String :=
  let operands := match c with
    | none => "COMMAND [ARGS]..."
    | some c => c.operand
  s!"Usage: {pathTo c} [OPTIONS] {operands}"

def versionLine : String :=
  s!"{programName}, version {programVersion}"

end GraphContracts.CommandLine
