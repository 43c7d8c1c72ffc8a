import GraphContracts.CommandLine.Help
import GraphContracts.CommandLine.Listing
import GraphContracts.CommandLine.Parse
import GraphContracts.Log.Journal

namespace GraphContracts.CommandLine

open Terminal

/-- Where a program runs: its files, the columns of its terminal and the time, as log lines tell
it. -/
structure Surroundings where
  files : FileTree
  columns : Nat
  time : String

structure Outcome where
  exitCode : Nat
  stdout : String
  stderr : String
  fault : Option Fault

structure Answer where
  printed : Printed
  findsIssues : Bool

def textOf (lines : List String) : String :=
  String.join (lines.map (· ++ "\n"))

def Answer.ofLines (lines : List String) : Answer :=
  ⟨⟨textOf lines, none⟩, false⟩

variable (s : Surroundings)

def report (path : Path) (json : Bool) : Logged Answer := do
  let g ← CallGraph.load s.files path
  let r ← (IntegrityContract.ofGraph g).allChecks.report
  if json then
    pure { Answer.ofLines [Json.write (Json.indented 2) r.record] with
      findsIssues := r.hasIssues }
  else pure ⟨printPage s.columns (Listing.reportPage path g r), r.hasIssues⟩

def symbols (path : Path) (pattern : Option String) (classes json : Bool) : Logged Answer := do
  let x ← SymbolIndex.load s.files .standard path
  let rows ← Logged.ofExcept (Listing.symbolRows x pattern classes)
  if json then
    pure (.ofLines [Json.write Json.compact (.list (rows.map Listing.SymbolRow.record))])
  else pure ⟨printPage s.columns (Listing.symbolPage rows), false⟩

def catalog (path : Path) (category : Option String) : Logged Answer := do
  let c ← Logged.ofExcept (Catalog.load s.files path)
  pure ⟨printPage s.columns (Listing.catalogPage (Listing.catalogTests c category)), false⟩

def answer : Request → Logged Answer
  | .help command => .pure (.ofLines (Help.lines s.columns command))
  | .version => .pure (.ofLines [versionLine])
  | .report path json => report s (.ofString path) json
  | .symbols path pattern classes json => symbols s (.ofString path) pattern classes json
  | .catalog path category => catalog s (.ofString path) category

/-- Log lines go to standard error: all when they are asked for, else warnings and worse. -/
def journal (verbose : Bool) : Log.Journal :=
  Log.Journal.empty.configure ⟨if verbose then .debug else .warning, [.standard]⟩

def Outcome.ofAnswer (log : String) : Except Fault Answer → Outcome
  | .ok a =>
    ⟨if a.printed.fault.isSome || a.findsIssues then 1 else 0, a.printed.text, log,
      a.printed.fault⟩
  | .error (.failure f) => ⟨1, "", log ++ textOf [s!"Error: {f.display}"], none⟩
  | .error e => ⟨1, "", log, some e⟩

def Outcome.ofMisuse (columns : Nat) (m : Misuse) : Outcome :=
  let lines := match m.error with
    | .noArguments => Help.lines columns none
    | e => [usageLine m.command, s!"Try '{pathTo m.command} --help' for help.", "",
        s!"Error: {e.message}"]
  ⟨2, "", textOf lines, none⟩

def run (args : List String) : Outcome :=
  match Invocation.ofArguments args with
  | .error m => .ofMisuse s.columns m
  | .ok i =>
    let answered := answer s i.request
    let log := (journal i.verbose).logAll s.time answered.events
    .ofAnswer (textOf (log.linesAt "stderr")) answered.result

end GraphContracts.CommandLine
