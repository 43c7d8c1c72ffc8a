import GraphContracts.Contract.Binding
import GraphContracts.Contract.Chain
import GraphContracts.Contract.Integrity
import GraphContracts.Contract.Reference
import GraphContracts.Index.Query

namespace GraphContracts

structure ContractData where
  graph : CallGraph
  index : Option SymbolIndex
  deriving DecidableEq, Repr

namespace ContractData

/-- Loads the call graph, which has to be there, and then the index, which may be absent. -/
def load (files : FileTree) (roles : RoleSchema) (callsPath : Path) (indexPath : Option Path) :
    Logged ContractData :=
  (CallGraph.load files callsPath).bind fun graph =>
    (SymbolIndex.loadOptional files roles indexPath).bind fun index => .pure ⟨graph, index⟩

def hasSymbolIndex (d : ContractData) : Bool :=
  d.index.isSome

def requireIndex (d : ContractData) : Except Failure SymbolIndex :=
  match d.index with
  | some x => .ok x
  | none => .error .indexUnavailable

def indexOrSkip (d : ContractData) : Except Fault SymbolIndex :=
  match d.index with
  | some x => .ok x
  | none => .error (.skipped Failure.indexUnavailable.message)

def inMethod (d : ContractData) (className methodName : String) : MethodScope :=
  .ofNames d.graph className methodName

def integrityReport (d : ContractData) : Logged IntegrityReport :=
  (IntegrityContract.ofGraph d.graph).allChecks.report

def describe (d : ContractData) : String :=
  let index := (d.index.map SymbolIndex.describe).getD "None"
  s!"ContractData(calls={d.graph.describe}, symbol_index={index})"

end ContractData

end GraphContracts
