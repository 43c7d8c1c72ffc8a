import GraphContracts.Config.Load
import GraphContracts.Log.Journal
import GraphContracts.Session

namespace GraphContracts.Suite

structure Flag where
  name : String
  takesValue : Bool
  help : String
  deriving DecidableEq, Repr

def groupName : String := "callcontract"

def groupTitle : String := "call-graph contract tests"

def flags : List Flag :=
  [⟨"--calls-json", true, "Path to calls.json (overrides data.calls_json)."⟩,
    ⟨"--scip-json", true, "Path to the SCIP symbol index (overrides data.scip_json)."⟩,
    ⟨"--experimental", false, "Run contract tests marked experimental."⟩]

def experimentalMark : String := "experimental"

def markHelp : String :=
  experimentalMark ++ ": contract covering an experimental call kind; " ++
    "skipped unless --experimental is given"

def skipReason : String := "experimental contract; run with --experimental"

structure Options where
  calls : Option String
  index : Option String
  experimental : Bool
  deriving DecidableEq, Repr

structure Project where
  files : FileTree
  root : Path
  environment : Environment

namespace Project

def config (p : Project) : Except Fault Config :=
  Config.load p.files p.root p.environment []

/-- Whether experimental tests are run; the configuration is read only without the option. -/
def runsExperimental (p : Project) (o : Options) : Except Fault Bool :=
  if o.experimental then .ok true else (p.config).map fun c => c.data.experimental

def skips (p : Project) (o : Options) (tests : List (List String)) : Except Fault (List Bool) :=
  let marked := tests.map fun marks => marks.contains experimentalMark
  if marked.any id then do
    let runs ← p.runsExperimental o
    pure (marked.map fun m => m && !runs)
  else .ok marked

def absolute (p : Project) (path : String) : Option String :=
  if path = "" then none
  else some (toString (Path.resolve p.files.current (.ofString path)))

/-- The configuration of a run, in which the options override the file. -/
def runConfig (p : Project) (o : Options) : Except Fault Config :=
  (p.config).map fun c => { c with
    data := { c.data with
      callsJson := (o.calls.bind p.absolute).getD c.data.callsJson
      indexJson := (o.index.bind p.absolute).or c.data.indexJson
      experimental := o.experimental || c.data.experimental } }

def load (p : Project) (c : Config) : Logged ContractData :=
  let home := p.environment.home
  match c.data.callsPath home p.root, c.data.indexPath home p.root with
  | some calls, some index => ContractData.load p.files c.roles calls index
  | _, _ => .ofExcept (.error (.aborted .noHome))

end Project

def summary (j : Log.Journal) (hasFailures : Bool) : List String :=
  match j.file? with
  | some path => if hasFailures then [s!"callcontract log: {path}"] else []
  | none => []

end GraphContracts.Suite
